import RedactableLedger.Text.Decimal
import RedactableLedger.Toml.Basic

namespace RedactableLedger

namespace Toml

def underscoreParts (cs : List Char) : List (List Char) :=
  ((String.ofList cs).splitOn "_").map (·.toList)

/-- Digits without the underscores between them; an underscore stands between two digits. -/
def ungroup? (isDigit : Char → Bool) (cs : List Char) : Option (List Char) :=
  let parts := underscoreParts cs
  if parts.all (fun p => !p.isEmpty && p.all isDigit) then some parts.flatten else none

/-- The digits of a whole number: none but zero itself starts with a zero. -/
def wholeDigits? (cs : List Char) : Option (List Char) :=
  (ungroup? Char.isDigit cs).filter fun ds => ds.length = 1 || ds.head? != some '0'

def splitSign : List Char → Bool × List Char
  | '-' :: rest => (true, rest)
  | '+' :: rest => (false, rest)
  | cs => (false, cs)

def digitValue (c : Char) : Nat :=
  if c.isDigit then c.toNat - 48 else c.toLower.toNat - 87

def isDigitOf (base : Nat) (c : Char) : Bool :=
  (c.isDigit || ('a' ≤ c.toLower && c.toLower ≤ 'f')) && digitValue c < base

def integer? (i : Int) : Option Toml :=
  if -0x8000000000000000 ≤ i ∧ i < 0x8000000000000000 then some (.integer i) else none

def basedInteger? (base : Nat) (cs : List Char) : Option Toml :=
  (ungroup? (isDigitOf base) cs).bind fun ds =>
    integer? (ds.foldl (fun n c => base * n + digitValue c) 0 : Nat)

def decimalInteger? (cs : List Char) : Option Toml :=
  let (negative, body) := splitSign cs
  (wholeDigits? body).bind fun ds =>
    integer? (if negative then -(Decimal.value ds : Int) else Decimal.value ds)

def splitAt? (p : Char → Bool) (cs : List Char) : List Char × Option (List Char) :=
  match cs.dropWhile (!p ·) with
  | [] => (cs, none)
  | _ :: rest => (cs.takeWhile (!p ·), some rest)

/-- A number with a fraction, with an exponent, or without a finite value. One that rounds to
infinity is refused. -/
def float? (cs : List Char) : Option Toml :=
  let (negative, body) := splitSign cs
  if body = "inf".toList ∨ body = "nan".toList then some (.float (String.ofList cs))
  else
    let (mantissa, exponent) := splitAt? (fun c => c = 'e' || c = 'E') body
    let (whole, fraction) := splitAt? (· = '.') mantissa
    if fraction.isNone ∧ exponent.isNone then none
    else do
      let whole ← wholeDigits? whole
      let fraction ← match fraction with
        | none => some []
        | some ds => ungroup? Char.isDigit ds
      let exponent ← match exponent with
        | none => some 0
        | some e =>
          let (below, ds) := splitSign e
          (ungroup? Char.isDigit ds).map fun ds =>
            if below then -(Decimal.value ds : Int) else (Decimal.value ds : Int)
      if !negative &&
        Decimal.exceedsDouble (Decimal.value (whole ++ fraction))
        (exponent - fraction.length) then none
      else some (.float (String.ofList cs))

def twoDigits? (low high : Nat) : List Char → Option (Nat × List Char)
  | a :: b :: rest =>
    if a.isDigit ∧ b.isDigit then
      let n := Decimal.value [a, b]
      if low ≤ n ∧ n ≤ high then some (n, rest) else none
    else none
  | _ => none

def expect? (c : Char) : List Char → Option (List Char)
  | d :: rest => if c = d then some rest else none
  | [] => none

def daysIn (year month : Nat) : Nat :=
  if month = 2 then
    if year % 4 = 0 ∧ (year % 100 ≠ 0 ∨ year % 400 = 0) then 29 else 28
  else if month = 4 ∨ month = 6 ∨ month = 9 ∨ month = 11 then 30
  else 31

def date? (cs : List Char) : Option (List Char) := do
  let year := cs.take 4
  if year.length ≠ 4 ∨ !year.all Char.isDigit then none
  let (month, rest) ← twoDigits? 1 12 (← expect? '-' (cs.drop 4))
  let (_, rest) ← twoDigits? 1 (daysIn (Decimal.value year) month) (← expect? '-' rest)
  return rest

def time? (cs : List Char) : Option (List Char) := do
  let (_, rest) ← twoDigits? 0 23 cs
  let (_, rest) ← twoDigits? 0 59 (← expect? ':' rest)
  let (_, rest) ← twoDigits? 0 60 (← expect? ':' rest)
  match rest with
  | '.' :: rest =>
    let (ds, rest) := Decimal.spanDigits rest
    if ds.isEmpty then none else return rest
  | rest => return rest

def isOffset : List Char → Bool
  | [] => true
  | ['Z'] | ['z'] => true
  | sign :: rest =>
    (sign = '+' || sign = '-') &&
      match twoDigits? 0 23 rest with
      | some (_, rest) => ((expect? ':' rest).bind (twoDigits? 0 59)).map (·.2) == some []
      | none => false

def isDatetime (cs : List Char) : Bool :=
  match date? cs with
  | some [] => true
  | some (c :: rest) =>
    (c = 'T' || c = 't' || c = ' ') && ((time? rest).map isOffset).getD false
  | none => time? cs == some []

def scalar? (cs : List Char) : Option Toml :=
  if cs = "true".toList then some (.boolean true)
  else if cs = "false".toList then some (.boolean false)
  else if isDatetime cs then some (.datetime (String.ofList cs))
  else
    match cs with
    | '0' :: 'x' :: rest => basedInteger? 16 rest
    | '0' :: 'o' :: rest => basedInteger? 8 rest
    | '0' :: 'b' :: rest => basedInteger? 2 rest
    | _ => (float? cs).or (decimalInteger? cs)

def isScalarChar (c : Char) : Bool := c.isAlphanum || "+-._:".toList.contains c

/-- Reads a value without quotes. A blank may stand between a date and a time. -/
def readScalar (cs : List Char) : Option (Toml × List Char) :=
  let token := cs.takeWhile isScalarChar
  let rest := cs.dropWhile isScalarChar
  match date? token, rest with
  | some [], ' ' :: d :: more =>
    if d.isDigit then
      let time := (d :: more).takeWhile isScalarChar
      (scalar? (token ++ ' ' :: time)).map (·, (d :: more).dropWhile isScalarChar)
    else (scalar? token).map (·, rest)
  | _, _ => (scalar? token).map (·, rest)

end Toml

end RedactableLedger
