namespace RedactableLedger

namespace Decimal

def value (ds : List Char) : Nat := ds.foldl (fun n c => 10 * n + (c.toNat - 48)) 0

/-- The number that decimal digits write, if there are digits and nothing else. -/
def value? (cs : List Char) : Option Nat :=
  if cs ≠ [] ∧ cs.all Char.isDigit then some (value cs) else none

def spanDigits (cs : List Char) : List Char × List Char :=
  (cs.takeWhile Char.isDigit, cs.dropWhile Char.isDigit)

def dropSign : List Char → List Char
  | '+' :: cs => cs
  | '-' :: cs => cs
  | cs => cs

/-- Whether a text is nothing, or the letter of an exponent with a number behind it. -/
def isExponent : List Char → Bool
  | [] => true
  | c :: cs => (c = 'e' || c = 'E') && (value? (dropSign cs)).isSome

def isUnsigned (cs : List Char) : Bool :=
  let (whole, rest) := spanDigits cs
  let (fraction, rest) := match rest with
    | '.' :: rest => spanDigits rest
    | _ => ([], rest)
  !(whole.isEmpty && fraction.isEmpty) && isExponent rest

def namesBeyond : List String := ["inf", "infinity", "nan"]

/-- Whether a text writes a number: a sign that may be left out, and digits or a name in any
case. -/
def isNumber (cs : List Char) : Bool :=
  let unsigned := dropSign cs
  isUnsigned unsigned || namesBeyond.contains (String.ofList (unsigned.map Char.toLower))

def doubleBound : Nat := Nat.pow 2 1024 - Nat.pow 2 970

/-- Whether a decimal number, of a significand and a power of ten, exceeds what a double can
hold. -/
def exceedsDouble (significand : Nat) (exponent : Int) : Bool :=
  if significand = 0 then false
  else if 400 < exponent then true
  else if exponent < 0 then
    if exponent + (Nat.toDigits 10 significand).length < 300 then false
    else significand ≥ doubleBound * Nat.pow 10 exponent.natAbs
  else significand * Nat.pow 10 exponent.toNat ≥ doubleBound

/-- The double next to a number; of two that are as near, the one with an even significand. -/
def roundToDouble (n : Nat) : Nat :=
  let unit := Nat.pow 2 (n.log2 - 52)
  let quotient := n / unit
  let twice := 2 * (n % unit)
  if unit < twice ∨ (unit = twice ∧ quotient % 2 = 1) then (quotient + 1) * unit
  else quotient * unit

/-- Appends digits to a significand as long as it fits into 64 bits: the significand, and how
many digits were appended. -/
def appendFitting (significand : Nat) : List Char → Nat × Nat
  | [] => (significand, 0)
  | d :: ds =>
    let longer := 10 * significand + (d.toNat - 48)
    if longer < UInt64.size then
      let (result, count) := appendFitting longer ds
      (result, count + 1)
    else (significand, 0)

def maxExponent : Int := 308

/-- Whether the product of a significand and a power of ten, each rounded to a double, is
infinite as a double. -/
def productOverflows (significand : Nat) (exponent : Int) : Bool :=
  significand ≠ 0 && 0 ≤ exponent &&
    (maxExponent < exponent ||
      roundToDouble significand * roundToDouble (Nat.pow 10 exponent.toNat) ≥ doubleBound)

/-- Whether a number overflows that is computed with doubles. Of its digits only those count
that fit into a significand of 64 bits; those after them and before the point are counted as
powers of ten. -/
def overflows (whole fraction : List Char) (exponent : Int) : Bool :=
  let (significand, wholeCount) := appendFitting 0 whole
  let (significand, fractionCount) := appendFitting significand fraction
  productOverflows significand (whole.length - wholeCount - fractionCount + exponent)

end Decimal

end RedactableLedger
