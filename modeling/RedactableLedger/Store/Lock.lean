import RedactableLedger.Fault

namespace RedactableLedger

/-- The mutex that a hash is amended under, with the number of spans that refer to it. -/
structure LockEntry where
  hash : TxHash
  mutex : Nat
  references : Nat
deriving DecidableEq

/-- The entries of the hashes that are checked out, and the number of the next mutex. -/
structure LockTable where
  entries : List LockEntry
  nextMutex : Nat
deriving DecidableEq

namespace LockTable

def empty : LockTable := ⟨[], 0⟩

instance : Inhabited LockTable := ⟨empty⟩

def find? (t : LockTable) (hash : TxHash) : Option LockEntry := t.entries.find? (·.hash = hash)

def mutex? (t : LockTable) (hash : TxHash) : Option Nat := (t.find? hash).map (·.mutex)

/-- Refers to the mutex of a hash once more, making one if there is none. -/
def checkout (t : LockTable) (hash : TxHash) : Nat × LockTable :=
  match t.find? hash with
  | some entry =>
    (entry.mutex,
      { t with
        entries := t.entries.map fun e =>
          if e.hash = hash then { e with references := e.references + 1 } else e })
  | none => (t.nextMutex, ⟨⟨hash, t.nextMutex, 1⟩ :: t.entries, t.nextMutex + 1⟩)

def release (t : LockTable) (mutex : Nat) : LockTable :=
  { t with
    entries := t.entries.map fun e =>
      if e.mutex = mutex then { e with references := e.references - 1 } else e }

def sweep (t : LockTable) (hash : TxHash) : LockTable :=
  { t with entries := t.entries.filter fun e => !(e.hash = hash ∧ e.references = 0) }

/-- Leaves a span: gives the reference up and removes the entry if it was the last one. -/
def checkin (t : LockTable) (hash : TxHash) (mutex : Nat) : LockTable :=
  (t.release mutex).sweep hash

def active (t : LockTable) : Nat := t.entries.length

def nestedActive (t : LockTable) : List TxHash → List Nat × LockTable
  | [] => ([], t)
  | hash :: rest =>
    let (mutex, inside) := t.checkout hash
    let (notes, left) := inside.nestedActive rest
    let after := left.checkin hash mutex
    (inside.active :: notes ++ [after.active], after)

end LockTable

end RedactableLedger
