import RedactableLedger.Octets

namespace RedactableLedger

namespace Hex

def digit (n : Nat) : Char := "0123456789abcdef".toList.getD n '0'

def value? (code : UInt8) : Option UInt8 :=
  if 48 ≤ code ∧ code ≤ 57 then some (code - 48)
  else if 97 ≤ code ∧ code ≤ 102 then some (code - 87)
  else if 65 ≤ code ∧ code ≤ 70 then some (code - 55)
  else none

def valueOf? (c : Char) : Option UInt8 :=
  if c.toNat < 128 then value? (UInt8.ofNat c.toNat) else none

/-- The character of a code point that is written as digits, unless the code point is no
character's. -/
def charOfDigits? (digits : List Char) : Option Char := do
  let values ← digits.mapM valueOf?
  let code := values.foldl (fun n v => 16 * n + v.toNat) 0
  if code.isValidChar then some (Char.ofNat code) else none

def encodeChars : Bytes → List Char
  | [] => []
  | b :: rest => digit (b.toNat / 16) :: digit (b.toNat % 16) :: encodeChars rest

def encode (bytes : Bytes) : String := String.ofList (encodeChars bytes)

structure BadDigit where
  code : UInt8
  position : Nat
deriving DecidableEq, Repr

/-- Reads the digits from a place onward, pair by pair; a lone last digit is dropped. -/
def decodeFrom (position : Nat) : Bytes → Except BadDigit Bytes
  | [] => .ok []
  | [_] => .ok []
  | high :: low :: rest =>
    match value? high, value? low with
    | none, _ => .error ⟨high, position⟩
    | some _, none => .error ⟨low, position + 1⟩
    | some h, some l => (decodeFrom (position + 2) rest).map ((h * 16 + l) :: ·)

def decode (text : String) : Except BadDigit Bytes := decodeFrom 0 (Bytes.ofText text)

theorem length_encodeChars (bytes : Bytes) : (encodeChars bytes).length = 2 * bytes.length := by
  induction bytes with
  | nil => rfl
  | cons b rest ih => simp only [encodeChars, List.length_cons, ih]; omega

theorem length_of_decodeFrom {position : Nat} {codes bytes : Bytes}
    (h : decodeFrom position codes = .ok bytes) : bytes.length = codes.length / 2 := by
  fun_induction decodeFrom position codes generalizing bytes with
  | case1 => cases h; rfl
  | case2 => cases h; simp
  | case3 => cases h
  | case4 => cases h
  | case5 position high low rest h' l hh hl ih =>
    cases hr : decodeFrom (position + 2) rest with
    | error e => rw [hr] at h; cases h
    | ok tail =>
      rw [hr] at h
      cases h
      simp only [List.length_cons, ih hr]
      omega

theorem length_of_decode {text : String} {bytes : Bytes} (h : decode text = .ok bytes) :
    bytes.length = text.utf8ByteSize / 2 := by
  rw [length_of_decodeFrom h, Bytes.length_ofText]

end Hex

end RedactableLedger
