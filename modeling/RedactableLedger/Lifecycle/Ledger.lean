import RedactableLedger.Network.Frame
import RedactableLedger.Resolve
import RedactableLedger.Store.Basic
import RedactableLedger.Store.Lock

namespace RedactableLedger

structure Dispatch where
  endpoint : String
  frame : Frame
  awaited : Bool
deriving DecidableEq

/-- The link to the node: where it leads, why broadcasts fail if they do, and what was handed to
it. -/
structure Link where
  endpoint : String
  fault : Option TransportFault
  handed : List Dispatch
deriving DecidableEq

namespace Link

def fresh (endpoint : String) (fault : Option TransportFault) : Link := ⟨endpoint, fault, []⟩

def hand (l : Link) (frame : Frame) (awaited : Bool) : Link :=
  { l with handed := l.handed ++ [⟨l.endpoint, frame, awaited⟩] }

def broadcasts (l : Link) : List Dispatch := l.handed.filter (!·.awaited)

end Link

/-- The state of the lifecycle. -/
structure Ledger where
  workspace : Workspace
  store : Store
  locks : LockTable
  link : Link
deriving DecidableEq

namespace Ledger

def inWorkspace (a : Action Workspace α) : Action Ledger α :=
  Action.on Ledger.workspace (fun w l => { l with workspace := w }) a

def inStore (a : Action Store α) : Action Ledger α :=
  Action.on Ledger.store (fun s l => { l with store := s }) a

/-- Runs a computation while a hash is checked out. -/
def locked (hash : TxHash) (a : Action Ledger α) : Action Ledger α := Action.of fun l =>
  let (mutex, locks) := l.locks.checkout hash
  let (r, l) := a.exec { l with locks }
  (r, { l with locks := l.locks.checkin hash mutex })

/-- Broadcasts a frame. A frame of a failed broadcast was handed over, too. -/
def broadcast (frame : Frame) : Action Ledger Unit := Action.of fun l =>
  let handed := { l with link := l.link.hand frame false }
  match l.link.fault with
  | some e => (.error (.transport e), handed)
  | none => (.ok (), handed)

end Ledger

end RedactableLedger
