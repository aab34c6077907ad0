import RedactableLedger.Json.Basic

namespace RedactableLedger

namespace Json

inductive RecordFault where
  /-- The text stops being JSON before the record is read. -/
  | unreadable
  /-- The text is JSON so far, but not of the record. -/
  | mismatch
deriving DecidableEq, Repr

/-- A named field of a record, with its value and with how a value is put in place. -/
structure Field (α : Type) where
  name : String
  get : α → Json
  put : Json → α → Except RecordFault α

def unexpected : Json → RecordFault
  | broken | valueless | unnamed => .unreadable
  | _ => .mismatch

namespace Field

def nat (name : String) (bound : Nat) (get : α → Nat) (put : Nat → α → α) : Field α :=
  ⟨name, fun a => integer (get a), fun v a =>
    match v with
    | integer i => if 0 ≤ i ∧ i < bound then .ok (put i.toNat a) else .error .mismatch
    | v => .error (unexpected v)⟩

def byte (name : String) (get : α → UInt8) (put : UInt8 → α → α) : Field α :=
  nat name UInt8.size (fun a => (get a).toNat) fun n => put (UInt8.ofNat n)

def word (name : String) (get : α → UInt32) (put : UInt32 → α → α) : Field α :=
  nat name UInt32.size (fun a => (get a).toNat) fun n => put (UInt32.ofNat n)

def long (name : String) (get : α → UInt64) (put : UInt64 → α → α) : Field α :=
  nat name UInt64.size (fun a => (get a).toNat) fun n => put (UInt64.ofNat n)

def flag (name : String) (get : α → Bool) (put : Bool → α → α) : Field α :=
  ⟨name, fun a => bool (get a), fun v a =>
    match v with
    | bool b => .ok (put b a)
    | v => .error (unexpected v)⟩

def text (name : String) (get : α → String) (put : String → α → α) : Field α :=
  ⟨name, fun a => string (get a), fun v a =>
    match v with
    | string s => .ok (put s a)
    | v => .error (unexpected v)⟩

def optionalText (name : String) (get : α → Option String) (put : Option String → α → α) :
    Field α :=
  ⟨name, fun a => ((get a).map string).getD null, fun v a =>
    match v with
    | string s => .ok (put (some s) a)
    | null => .ok (put none a)
    | v => .error (unexpected v)⟩

end Field

def ofRecord (fields : List (Field α)) (a : α) : Json :=
  object (fields.map fun field => (field.name, field.get a))

/-- Puts the members of an object in place. A name may come once; other names are passed over,
but each member of the record itself has to have a name. -/
def putMembers (fields : List (Field α)) : List String → List (String × Json) → α →
    Except RecordFault α
  | _, [], a => .ok a
  | _, (_, unnamed) :: _, _ => .error .unreadable
  | seen, (name, v) :: rest, a =>
    match fields.find? (·.name == name) with
    | none => if v.isWhole then putMembers fields seen rest a else .error .unreadable
    | some field =>
      if seen.contains name then .error .mismatch
      else
        match field.put v a with
        | .ok a => putMembers fields (name :: seen) rest a
        | .error e => .error e

def putItems : List (Field α) → List Json → α → Except RecordFault α
  | _, [], a => .ok a
  | [], _ :: _, _ => .error .unreadable
  | field :: fields, v :: rest, a =>
    match field.put v a with
    | .ok a => putItems fields rest a
    | .error e => .error e

def toRecord (fields : List (Field α)) (defaults : α) : Json → Except RecordFault α
  | object ms => putMembers fields [] ms defaults
  | array items => putItems fields items defaults
  | v => .error (unexpected v)

end Json

end RedactableLedger
