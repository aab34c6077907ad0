namespace RedactableLedger

abbrev Modulus (p : Nat) : Prop := @NeZero Nat Zero.ofOfNat0 p

def binaryDigits (e : Nat) : List Bool :=
  (List.range (e.log2 + 1)).reverse.map e.testBit

namespace Field

variable {p : Nat} [Modulus p]

def pow (a : Fin p) (e : Nat) : Fin p :=
  (binaryDigits e).foldl (fun acc bit => if bit then acc * acc * a else acc * acc)
    (Fin.ofNat p 1)

/-- The inverse of a nonzero element modulo a prime, and zero for zero. -/
def inv (a : Fin p) : Fin p := pow a (p - 2)

/-- The square root that is a power of the element, for a prime that leaves 3 modulo 4. -/
def sqrt? (a : Fin p) : Option (Fin p) :=
  let root := pow a ((p + 1) / 4)
  if root * root = a then some root else none

def ofNat? (p v : Nat) : Option (Fin p) := if h : v < p then some ⟨v, h⟩ else none

end Field

end RedactableLedger
