import RedactableLedger.Network.Bridge

namespace RedactableLedger

structure NodeReply where
  delay : Nat
  result : Except TransportFault Frame

abbrev NodeBehaviour := AccountQuery → NodeReply

def NodeBehaviour.unreachable (fault : TransportFault) : NodeBehaviour :=
  fun _ => ⟨0, .error fault⟩

namespace Bridge

/-- Events that happen at one moment; `rank` orders those of the same time. -/
structure Moment where
  time : Nat
  rank : Nat
  events : List Event

def Moment.le (a b : Moment) : Bool := a.time < b.time || (a.time == b.time && a.rank ≤ b.rank)

def numbering (b : Bridge) (queries : List AccountQuery) : List (UInt64 × AccountQuery) :=
  if b.isDown then []
  else (List.range queries.length).map (b.nextId + UInt64.ofNat ·) |>.zip queries

def momentsOf (node : NodeBehaviour) (timeout : Nat) (id : UInt64) (query : AccountQuery) :
    List Moment :=
  let answer := node query
  [⟨timeout, 1, [.expire id]⟩, ⟨answer.delay, 2, [.reply id answer.result, .receive id]⟩]

def shutdownMoment (ids : List UInt64) (time : Nat) : Moment :=
  ⟨time, 0, [.shutdown, .stop] ++ ids.map .cancel⟩

def clearing (b : Bridge) : List Event := List.replicate b.queue.length .dequeue

/-- The events of callers who ask at the same time, perhaps with a shutdown after a while. What
the queue still holds is sent first. -/
def schedule (node : NodeBehaviour) (timeout : Nat) (shutdownAfter : Option Nat) (b : Bridge)
    (queries : List AccountQuery) : List Event :=
  let calls := b.numbering queries
  let moments := (shutdownAfter.map (shutdownMoment (calls.map (·.1)))).toList ++
    calls.flatMap fun (id, query) => momentsOf node timeout id query
  b.clearing ++ queries.map .register ++
    calls.flatMap (fun (id, _) => [.enqueue id, .dequeue]) ++
    (moments.mergeSort Moment.le).flatMap (·.events)

def turnedAway (queries : List AccountQuery) : List Event :=
  .shutdown :: .stop :: queries.map .register

/-- The events of a lone caller whose time limit is over at once. It does not wait for its
request to be sent, unless it has to wait for room in the queue. -/
def hurried (b : Bridge) (query : AccountQuery) : List Event :=
  (if b.queue.length < capacity then [] else b.clearing) ++
    [.register query, .enqueue b.nextId, .expire b.nextId]

def outcomes (timeout : Nat) (events : List Event) (b : Bridge) (queries : List AccountQuery) :
    List AccountAnswer × List Frame × Bridge :=
  let (after, effects) := b.run timeout events
  let answers := if b.isDown then queries.map fun _ => .error .cancelled
    else (b.numbering queries).map fun (id, _) => (answerIn effects id).getD (.error .cancelled)
  (answers, framesIn effects, after)

/-- The outcome of each of some callers who ask at the same time, and the frames that are sent.
A shutdown after no time at all comes before the callers. -/
def exchange (node : NodeBehaviour) (timeout : Nat) (shutdownAfter : Option Nat) (b : Bridge)
    (queries : List AccountQuery) : List AccountAnswer × List Frame × Bridge :=
  if shutdownAfter = some 0 then b.outcomes timeout (turnedAway queries) queries
  else if queries.isEmpty ∧ shutdownAfter = none then ([], [], b)
  else b.outcomes timeout (schedule node timeout shutdownAfter b queries) queries

def exchangeOne (node : NodeBehaviour) (timeout : Nat) (b : Bridge) (query : AccountQuery) :
    AccountAnswer × List Frame × Bridge :=
  let events := if timeout = 0 then b.hurried query else schedule node timeout none b [query]
  let (answers, frames, after) := b.outcomes timeout events [query]
  (answers.headD (.error .cancelled), frames, after)

def clear (b : Bridge) : List Frame × Bridge :=
  let (after, effects) := b.run 0 b.clearing
  (framesIn effects, after)

end Bridge

end RedactableLedger
