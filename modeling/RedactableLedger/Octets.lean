namespace RedactableLedger

abbrev Bytes := List UInt8

namespace Bytes

def ofText (s : String) : Bytes := s.toUTF8.data.toList

theorem length_ofText (s : String) : (ofText s).length = s.utf8ByteSize := by
  rw [ofText, Array.length_toList]
  rfl

def toText? (bytes : Bytes) : Option String := String.fromUTF8? ⟨bytes.toArray⟩

/-- The number whose base-256 digits are the bytes, least significant first. -/
def toNatLE : Bytes → Nat
  | [] => 0
  | b :: rest => b.toNat + 256 * toNatLE rest

/-- The `n` least significant base-256 digits of a number, least significant first. -/
def ofNatLE : Nat → Nat → Bytes
  | 0, _ => []
  | n + 1, v => UInt8.ofNat (v % 256) :: ofNatLE n (v / 256)

/-- The number whose base-256 digits are the bytes, most significant first. -/
def toNatBE (bytes : Bytes) : Nat := toNatLE bytes.reverse

/-- The `n` least significant base-256 digits of a number, most significant first. -/
def ofNatBE (n v : Nat) : Bytes := (ofNatLE n v).reverse

@[simp] theorem length_ofNatLE (n v : Nat) : (ofNatLE n v).length = n := by
  induction n generalizing v with
  | zero => rfl
  | succ n ih => simp [ofNatLE, ih]

@[simp] theorem length_ofNatBE (n v : Nat) : (ofNatBE n v).length = n := by
  simp [ofNatBE]

theorem toNatLE_lt (bytes : Bytes) : toNatLE bytes < Nat.pow 256 bytes.length := by
  induction bytes with
  | nil => decide
  | cons b rest ih =>
    have hb : b.toNat < 256 := b.toNat_lt_size
    change b.toNat + 256 * toNatLE rest < Nat.pow 256 rest.length * 256
    omega

theorem toNatLE_ofNatLE (n v : Nat) : toNatLE (ofNatLE n v) = v % Nat.pow 256 n := by
  induction n generalizing v with
  | zero => simp [ofNatLE, toNatLE, Nat.mod_one]
  | succ n ih =>
    have hb : (UInt8.ofNat (v % 256)).toNat = v % 256 := by simp
    rw [ofNatLE, toNatLE, hb, ih, ← Nat.mod_mul, Nat.mul_comm]
    rfl

theorem ofNatLE_toNatLE (bytes : Bytes) : ofNatLE bytes.length (toNatLE bytes) = bytes := by
  induction bytes with
  | nil => rfl
  | cons b rest ih =>
    have hb : b.toNat < 256 := b.toNat_lt_size
    simp only [List.length_cons, toNatLE, ofNatLE]
    rw [show (b.toNat + 256 * toNatLE rest) % 256 = b.toNat by omega,
      show (b.toNat + 256 * toNatLE rest) / 256 = toNatLE rest by omega, ih]
    simp

theorem toNatBE_ofNatBE (n v : Nat) : toNatBE (ofNatBE n v) = v % Nat.pow 256 n := by
  rw [toNatBE, ofNatBE, List.reverse_reverse, toNatLE_ofNatLE]

theorem ofNatBE_toNatBE (bytes : Bytes) : ofNatBE bytes.length (toNatBE bytes) = bytes := by
  have h := ofNatLE_toNatLE bytes.reverse
  rw [List.length_reverse] at h
  rw [ofNatBE, toNatBE, h, List.reverse_reverse]

end Bytes

/-- A byte string of exactly `n` bytes. -/
structure Octets (n : Nat) where
  bytes : Bytes
  length_eq : bytes.length = n
deriving DecidableEq

namespace Octets

@[ext] theorem ext {a b : Octets n} (h : a.bytes = b.bytes) : a = b := by
  cases a; cases b; cases h; rfl

def ofBytes? (bytes : Bytes) : Option (Octets n) :=
  if h : bytes.length = n then some ⟨bytes, h⟩ else none

def zero (n : Nat) : Octets n := ⟨List.replicate n 0, List.length_replicate⟩

instance : Inhabited (Octets n) := ⟨zero n⟩

def append (a : Octets m) (b : Octets n) : Octets (m + n) :=
  ⟨a.bytes ++ b.bytes, by simp [a.length_eq, b.length_eq]⟩

instance : HAppend (Octets m) (Octets n) (Octets (m + n)) := ⟨append⟩

def toNatLE (a : Octets n) : Nat := a.bytes.toNatLE

def toNatBE (a : Octets n) : Nat := a.bytes.toNatBE

def ofNatLE (n v : Nat) : Octets n := ⟨Bytes.ofNatLE n v, Bytes.length_ofNatLE n v⟩

def ofNatBE (n v : Nat) : Octets n := ⟨Bytes.ofNatBE n v, Bytes.length_ofNatBE n v⟩

end Octets

end RedactableLedger
