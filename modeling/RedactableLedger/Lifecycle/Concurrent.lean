import RedactableLedger.Lifecycle.Amend

namespace RedactableLedger

structure AmendCall where
  hash : TxHash
  amendment : Amendment
deriving DecidableEq

namespace AmendCall

def compute (call : AmendCall) (loaded : Outcome Transaction) :
    Outcome (Amendment.Answer × Transaction) :=
  loaded >>= (call.amendment.apply call.hash ·)

def serial (call : AmendCall) : Action Store Amendment.Answer :=
  Store.amend call.hash (call.amendment.apply call.hash ·)

end AmendCall

inductive SpanPhase where
  | idle
  /-- It refers to the mutex of its hash and waits for it. -/
  | waiting (mutex : Nat)
  /-- It holds the mutex and has not read yet. -/
  | holding (mutex : Nat)
  /-- It holds the mutex and has read. -/
  | loaded (mutex : Nat) (record : Outcome Transaction)
  /-- It holds the mutex and has written, if there was something to write. -/
  | written (mutex : Nat) (answer : Outcome Amendment.Answer)
  /-- It has let the mutex go and still refers to it. -/
  | released (mutex : Nat) (answer : Outcome Amendment.Answer)
  /-- It has given its reference up, and the entry of its hash is still to be swept. -/
  | dropped (answer : Outcome Amendment.Answer)

namespace SpanPhase

def held? : SpanPhase → Option Nat
  | holding mutex | loaded mutex _ | written mutex _ => some mutex
  | _ => none

def referred? : SpanPhase → Option Nat
  | waiting mutex | holding mutex | loaded mutex _ | written mutex _ | released mutex _ =>
    some mutex
  | _ => none

end SpanPhase

/-- A thread: the calls still to return, the first of which is under way unless the phase is
idle, and the answers of those that returned, in the order of the calls. -/
structure AmendThread where
  calls : List AmendCall
  phase : SpanPhase
  answers : List (Outcome Amendment.Answer)

namespace AmendThread

def start (calls : List AmendCall) : AmendThread := ⟨calls, .idle, []⟩

def isFinished (t : AmendThread) : Bool := t.calls.isEmpty

end AmendThread

/-- Threads over one store and one lock table, with the calls that acquired their mutexes, in
the order in which they did. -/
structure ConcurrentRun where
  store : Store
  locks : LockTable
  threads : List AmendThread
  acquired : List (Nat × AmendCall)

namespace ConcurrentRun

def start (store : Store) (calls : List (List AmendCall)) : ConcurrentRun :=
  ⟨store, .empty, calls.map .start, []⟩

def isHeld (r : ConcurrentRun) (mutex : Nat) : Bool :=
  r.threads.any fun t => t.phase.held? = some mutex

def setThread (r : ConcurrentRun) (i : Nat) (t : AmendThread) : ConcurrentRun :=
  { r with threads := r.threads.set i t }

def stepThread (r : ConcurrentRun) (i : Nat) (t : AmendThread) (call : AmendCall)
    (rest : List AmendCall) : ConcurrentRun :=
  match t.phase with
  | .idle =>
    let (mutex, locks) := r.locks.checkout call.hash
    { r with locks }.setThread i { t with phase := .waiting mutex }
  | .waiting mutex =>
    if r.isHeld mutex then r
    else { r with acquired := r.acquired ++ [(i, call)] }.setThread i
      { t with phase := .holding mutex }
  | .holding mutex => r.setThread i { t with phase := .loaded mutex (r.store.load call.hash) }
  | .loaded mutex record =>
    match call.compute record with
    | .error e => r.setThread i { t with phase := .written mutex (.error e) }
    | .ok (answer, tx) =>
      { r with store := r.store.put call.hash tx }.setThread i
        { t with phase := .written mutex (.ok answer) }
  | .written mutex answer => r.setThread i { t with phase := .released mutex answer }
  | .released mutex answer =>
    { r with locks := r.locks.release mutex }.setThread i { t with phase := .dropped answer }
  | .dropped answer =>
    -- another thread may have checked the hash out since the reference was given up
    { r with locks := r.locks.sweep call.hash }.setThread i
      ⟨rest, .idle, t.answers ++ [answer]⟩

def step (r : ConcurrentRun) (i : Nat) : ConcurrentRun :=
  match r.threads[i]? with
  | none => r
  | some t =>
    match t.calls with
    | [] => r
    | call :: rest => r.stepThread i t call rest

def run (r : ConcurrentRun) (interleaving : List Nat) : ConcurrentRun :=
  interleaving.foldl step r

def answers (r : ConcurrentRun) (i : Nat) : List (Outcome Amendment.Answer) :=
  ((r.threads[i]?).map (·.answers)).getD []

def stepsPerCall : Nat := 7

/-- An interleaving in which some threads take turns, long enough for one call of each. -/
def takingTurns (threads : Nat) : List Nat :=
  (List.replicate (stepsPerCall * threads) (List.range threads)).flatten

end ConcurrentRun

def Ledger.concurrently (calls : List AmendCall) :
    Action Ledger (List (Outcome Amendment.Answer)) :=
  Action.of fun l =>
    let final := (ConcurrentRun.start l.store (calls.map ([·]))).run
      (ConcurrentRun.takingTurns calls.length)
    (.ok ((List.range calls.length).flatMap final.answers), { l with store := final.store })

end RedactableLedger
