import RedactableLedger.Account
import RedactableLedger.Network.Frame

namespace RedactableLedger

/-- What a caller wants to know: the account of an address digest, or its root status. -/
structure AccountQuery where
  root : Bool
  addressHash : Digest
deriving DecidableEq

namespace AccountQuery

def frame (q : AccountQuery) (id : UInt64) : Frame :=
  ⟨.request q.root, Layout.accountRequest.encode ⟨id, q.addressHash⟩⟩

end AccountQuery

structure BridgeCall where
  id : UInt64
  query : AccountQuery
deriving DecidableEq

abbrev AccountAnswer := Outcome (Option Account)

def decodeReply (reply : Frame) : AccountAnswer :=
  match reply.type with
  | .accountResponse =>
    match (Layout.option Layout.account).read reply.payload with
    | .ok account => .ok account
    | .error e => .error (.transport (.malformedAccount e))
  | .notFound => .ok none
  | type => .error (.transport (.unexpectedReply type.name))

def answerOf : Except TransportFault Frame → AccountAnswer
  | .ok reply => decodeReply reply
  | .error e => .error (.transport e)

structure Bridge where
  nextId : UInt64
  /-- Callers whose request has not entered the queue yet. -/
  blocked : List BridgeCall
  /-- Requests that were not sent yet, first come first. -/
  queue : List BridgeCall
  /-- Requests that were sent and whose exchanges have not ended. -/
  inFlight : List BridgeCall
  /-- Callers whose request has entered the queue and who have no answer yet. -/
  waiting : List BridgeCall
  /-- The table of the requests that a reply is still wanted for. -/
  pending : List UInt64
  /-- Answers that were handed over and not taken yet. -/
  mail : List (UInt64 × AccountAnswer)
  isDown : Bool
  isStopped : Bool

namespace Bridge

def fresh : Bridge := ⟨1, [], [], [], [], [], [], false, false⟩

instance : Inhabited Bridge := ⟨fresh⟩

def capacity : Nat := 64

inductive Event where
  | register (query : AccountQuery)
  | enqueue (id : UInt64)
  | dequeue
  | reply (id : UInt64) (result : Except TransportFault Frame)
  | receive (id : UInt64)
  | expire (id : UInt64)
  | cancel (id : UInt64)
  | shutdown
  | stop

inductive Effect where
  | sent (frame : Frame)
  | answered (id : UInt64) (answer : AccountAnswer)
  | refused

def findCall (calls : List BridgeCall) (id : UInt64) : Option BridgeCall :=
  calls.find? (·.id = id)

def findMail (b : Bridge) (id : UInt64) : Option AccountAnswer :=
  (b.mail.find? (·.1 = id)).map (·.2)

def leave (b : Bridge) (id : UInt64) : Bridge :=
  { b with
    blocked := b.blocked.filter (·.id ≠ id)
    waiting := b.waiting.filter (·.id ≠ id)
    pending := b.pending.filter (· ≠ id)
    mail := b.mail.filter (·.1 ≠ id) }

def finish (b : Bridge) (id : UInt64) (answer : AccountAnswer) : Bridge × List Effect :=
  (b.leave id, [.answered id answer])

def register (b : Bridge) (query : AccountQuery) : Bridge × List Effect :=
  if b.isDown then (b, [.refused])
  else
    ({ b with
      nextId := b.nextId + 1
      blocked := b.blocked ++ [⟨b.nextId, query⟩]
      pending := b.pending ++ [b.nextId] }, [])

/-- Puts the request of a blocked caller into the queue when there is room. Once sending has
ended the caller is cancelled. -/
def enqueue (b : Bridge) (id : UInt64) : Bridge × List Effect :=
  match findCall b.blocked id with
  | none => (b, [])
  | some call =>
    if b.isStopped then b.finish id (.error .cancelled)
    else if b.queue.length < capacity then
      ({ b with
        blocked := b.blocked.filter (·.id ≠ id)
        queue := b.queue ++ [call]
        waiting := b.waiting ++ [call] }, [])
    else (b, [])

def dequeue (b : Bridge) : Bridge × List Effect :=
  match b.isStopped, b.queue with
  | false, call :: rest =>
    ({ b with queue := rest, inFlight := b.inFlight ++ [call] },
      [.sent (call.query.frame call.id)])
  | _, _ => (b, [])

def land (b : Bridge) (id : UInt64) : Bridge :=
  { b with inFlight := b.inFlight.filter (·.id ≠ id) }

/-- Ends the exchange for a request that was sent, and hands the answer over if one is still
wanted. -/
def reply (b : Bridge) (id : UInt64) (result : Except TransportFault Frame) :
    Bridge × List Effect :=
  match findCall b.inFlight id with
  | none => (b, [])
  | some _ =>
    if id ∈ b.pending then
      ({ b.land id with
        pending := b.pending.filter (· ≠ id)
        mail := b.mail ++ [(id, answerOf result)] }, [])
    else (b.land id, [])

def receive (b : Bridge) (id : UInt64) : Bridge × List Effect :=
  match findCall b.waiting id, b.findMail id with
  | some _, some answer => b.finish id answer
  | _, _ => (b, [])

def expire (timeout : Nat) (b : Bridge) (id : UInt64) : Bridge × List Effect :=
  match findCall b.waiting id, b.findMail id with
  | some _, none => b.finish id (.error (.timeout timeout))
  | _, _ => (b, [])

/-- A waiting caller notices the shutdown, or that its request is wanted no more. -/
def cancel (b : Bridge) (id : UInt64) : Bridge × List Effect :=
  match findCall b.waiting id with
  | some _ =>
    if b.isDown || (!b.pending.contains id && (b.findMail id).isNone) then
      b.finish id (.error .cancelled)
    else (b, [])
  | none => (b, [])

def step (timeout : Nat) (b : Bridge) : Event → Bridge × List Effect
  | .register query => b.register query
  | .enqueue id => b.enqueue id
  | .dequeue => b.dequeue
  | .reply id result => b.reply id result
  | .receive id => b.receive id
  | .expire id => expire timeout b id
  | .cancel id => b.cancel id
  | .shutdown => ({ b with isDown := true, pending := [] }, [])
  | .stop =>
    if b.isDown then ({ b with isStopped := true, queue := [], pending := [] }, []) else (b, [])

def run (timeout : Nat) (b : Bridge) : List Event → Bridge × List Effect
  | [] => (b, [])
  | e :: rest =>
    let (b, shown) := b.step timeout e
    let (b, more) := b.run timeout rest
    (b, shown ++ more)

def pendingCount (b : Bridge) : Nat := b.pending.length

def answerIn (effects : List Effect) (id : UInt64) : Option AccountAnswer :=
  effects.findSome? fun
    | .answered i answer => if i = id then some answer else none
    | _ => none

def framesIn (effects : List Effect) : List Frame :=
  effects.filterMap fun
    | .sent frame => some frame
    | _ => none

end Bridge

end RedactableLedger
