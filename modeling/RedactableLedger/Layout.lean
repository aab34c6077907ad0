import RedactableLedger.Fault

namespace RedactableLedger

structure Layout (α : Type) where
  encode : α → Bytes
  decode : Bytes → Except LayoutFault (α × Bytes)

namespace Layout

def takeBytes (n : Nat) (bytes : Bytes) : Except LayoutFault (Bytes × Bytes) :=
  if n ≤ bytes.length then .ok (bytes.take n, bytes.drop n) else .error .ended

theorem takeBytes_append {front rest : Bytes} {n : Nat} (h : front.length = n) :
    takeBytes n (front ++ rest) = .ok (front, rest) := by
  subst h
  simp [takeBytes]

theorem eq_append_of_takeBytes {n : Nat} {bytes front rest : Bytes}
    (h : takeBytes n bytes = .ok (front, rest)) : bytes = front ++ rest ∧ front.length = n := by
  unfold takeBytes at h
  split at h
  · cases h
    exact ⟨(List.take_append_drop n bytes).symm, by simp; omega⟩
  · cases h

theorem length_take_of_le {n : Nat} {bytes : Bytes} (h : n ≤ bytes.length) :
    (bytes.take n).length = n := by
  rw [List.length_take, Nat.min_eq_left h]

def octets (n : Nat) : Layout (Octets n) where
  encode a := a.bytes
  decode bytes :=
    if h : n ≤ bytes.length then .ok (⟨bytes.take n, length_take_of_le h⟩, bytes.drop n)
    else .error .ended

/-- A number of `n` bytes. -/
def natural (n : Nat) : Layout Nat where
  encode v := Bytes.ofNatLE n v
  decode bytes := do
    let (front, rest) ← takeBytes n bytes
    return (front.toNatLE, rest)

def map (l : Layout α) (of : α → β) (back : β → α) : Layout β where
  encode b := l.encode (back b)
  decode bytes := do
    let (a, rest) ← l.decode bytes
    return (of a, rest)

def pair (a : Layout α) (b : Layout β) : Layout (α × β) where
  encode v := a.encode v.1 ++ b.encode v.2
  decode bytes := do
    let (x, rest) ← a.decode bytes
    let (y, rest) ← b.decode rest
    return ((x, y), rest)

def byte : Layout UInt8 := (natural 1).map UInt8.ofNat UInt8.toNat

def word : Layout UInt32 := (natural 4).map UInt32.ofNat UInt32.toNat

def long : Layout UInt64 := (natural 8).map UInt64.ofNat UInt64.toNat

/-- A signed number of 64 bits, in two's complement. -/
def signed : Layout Int64 := long.map UInt64.toInt64 Int64.toUInt64

def flag : Layout Bool where
  encode b := [if b then 1 else 0]
  decode
    | [] => .error .ended
    | 0 :: rest => .ok (false, rest)
    | 1 :: rest => .ok (true, rest)
    | b :: _ => .error (.boolean b.toNat)

def sized : Layout Bytes where
  encode bytes := (natural 8).encode bytes.length ++ bytes
  decode bytes := do
    let (n, rest) ← (natural 8).decode bytes
    takeBytes n rest

def sized64 : Layout (Octets 64) where
  encode a := sized.encode a.bytes
  decode bytes := do
    let (content, rest) ← sized.decode bytes
    if h : content.length = 64 then return (⟨content, h⟩, rest)
    else throw (.width content.length)

/-- A value or none: one byte, zero or one, and the value after a one. -/
def option (l : Layout α) : Layout (Option α) where
  encode
    | none => [0]
    | some a => 1 :: l.encode a
  decode
    | [] => .error .ended
    | 0 :: rest => .ok (none, rest)
    | 1 :: rest => do
      let (a, rest) ← l.decode rest
      return (some a, rest)
    | b :: _ => .error (.optionTag b.toNat)

/-- The value at the front of a byte string; what follows it is ignored. -/
def read (l : Layout α) (bytes : Bytes) : Except LayoutFault α :=
  (l.decode bytes).map (·.1)

end Layout

end RedactableLedger
