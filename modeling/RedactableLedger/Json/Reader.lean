import RedactableLedger.Json.Basic
import RedactableLedger.Text.Decimal
import RedactableLedger.Text.Hex

namespace RedactableLedger

namespace Ascii

@[match_pattern] abbrev quote : UInt8 := 34
@[match_pattern] abbrev plus : UInt8 := 43
@[match_pattern] abbrev comma : UInt8 := 44
@[match_pattern] abbrev minus : UInt8 := 45
@[match_pattern] abbrev point : UInt8 := 46
@[match_pattern] abbrev slash : UInt8 := 47
@[match_pattern] abbrev zero : UInt8 := 48
@[match_pattern] abbrev nine : UInt8 := 57
@[match_pattern] abbrev colon : UInt8 := 58
@[match_pattern] abbrev upperE : UInt8 := 69
@[match_pattern] abbrev leftBracket : UInt8 := 91
@[match_pattern] abbrev backslash : UInt8 := 92
@[match_pattern] abbrev rightBracket : UInt8 := 93
@[match_pattern] abbrev lowerB : UInt8 := 98
@[match_pattern] abbrev lowerE : UInt8 := 101
@[match_pattern] abbrev lowerF : UInt8 := 102
@[match_pattern] abbrev lowerN : UInt8 := 110
@[match_pattern] abbrev lowerR : UInt8 := 114
@[match_pattern] abbrev lowerT : UInt8 := 116
@[match_pattern] abbrev lowerU : UInt8 := 117
@[match_pattern] abbrev leftBrace : UInt8 := 123
@[match_pattern] abbrev rightBrace : UInt8 := 125

def isDigit (b : UInt8) : Bool := zero ≤ b && b ≤ nine

def isBlank (b : UInt8) : Bool := b = 32 || b = 10 || b = 9 || b = 13

end Ascii

namespace Json

/-- The bytes that remain after a piece was read, if reading can go on. -/
abbrev Remaining := Option Bytes

def skipBlanks (bytes : Bytes) : Bytes := bytes.dropWhile Ascii.isBlank

def spanDigits (bytes : Bytes) : List Char × Bytes :=
  ((bytes.takeWhile Ascii.isDigit).map Char.ofUInt8, bytes.dropWhile Ascii.isDigit)

def hexUnit? (a b c d : UInt8) : Option Nat := do
  let values ← [a, b, c, d].mapM Hex.value?
  return values.foldl (fun n v => 16 * n + v.toNat) 0

def shortEscape? : UInt8 → Option Char
  | Ascii.quote => some '"'
  | Ascii.backslash => some '\\'
  | Ascii.slash => some '/'
  | Ascii.lowerB => some (Char.ofNat 8)
  | Ascii.lowerF => some (Char.ofNat 12)
  | Ascii.lowerN => some '\n'
  | Ascii.lowerR => some '\r'
  | Ascii.lowerT => some '\t'
  | _ => none

/-- Puts the bytes of a character before bytes that are collected backwards. -/
def collect (c : Char) (acc : Bytes) : Bytes := (String.utf8EncodeChar c).reverse ++ acc

/-- A string that was read. It has no value if an escape in it names no character, or if its
bytes are no text. -/
def stringOf (whole : Bool) (bytes : Bytes) : Json :=
  if whole then ((Bytes.toText? bytes).map string).getD valueless else valueless

/-- Reads a string after its opening quote, collecting its bytes backwards. The flag tells
whether all escapes so far name characters. -/
def readStringAux : Nat → Bool → Bytes → Bytes → Json × Remaining
  | 0, _, _, _ => (broken, none)
  | _ + 1, whole, acc, Ascii.quote :: rest => (stringOf whole acc.reverse, some rest)
  | n + 1, whole, acc, Ascii.backslash :: Ascii.lowerU :: a :: b :: c :: d :: rest =>
    match hexUnit? a b c d with
    | none => (broken, none)
    | some unit =>
      if 0xD800 ≤ unit ∧ unit < 0xDC00 then
        match rest with
        | Ascii.backslash :: Ascii.lowerU :: a' :: b' :: c' :: d' :: rest' =>
          match hexUnit? a' b' c' d' with
          | none => (broken, none)
          | some low =>
            if 0xDC00 ≤ low ∧ low < 0xE000 then
              let code := 0x10000 + (unit - 0xD800) * 0x400 + (low - 0xDC00)
              readStringAux n whole (collect (Char.ofNat code) acc) rest'
            else readStringAux n false acc rest'
        | _ => readStringAux n false acc rest
      else if 0xDC00 ≤ unit ∧ unit < 0xE000 then readStringAux n false acc rest
      else readStringAux n whole (collect (Char.ofNat unit) acc) rest
  | n + 1, whole, acc, Ascii.backslash :: b :: rest =>
    match shortEscape? b with
    | some c => readStringAux n whole (collect c acc) rest
    | none => (broken, none)
  | n + 1, whole, acc, b :: rest =>
    if b < 32 ∨ b = Ascii.backslash then (broken, none)
    else readStringAux n whole (b :: acc) rest
  | _ + 1, _, _, [] => (broken, none)

def readString (bytes : Bytes) : Json × Remaining :=
  readStringAux (bytes.length + 1) true [] bytes

/-- The value of a number's parts. An integer that needs more than 64 bits, and a negative zero,
are no integers. -/
def numberOf (negative : Bool) (whole fraction : List Char) (exponent : Option Int)
    (text : List Char) : Json :=
  let v := Decimal.value whole
  let isInteger := fraction.isEmpty && exponent.isNone &&
    if negative then decide (0 < v ∧ v ≤ 0x8000000000000000) else decide (v < UInt64.size)
  if isInteger then integer (if negative then -(v : Int) else v)
  else if Decimal.overflows whole fraction (exponent.getD 0) then valueless
  else decimal (String.ofList text)

/-- Reads an exponent if one stands there: none, a broken one, or its value. -/
def readExponent (bytes : Bytes) : Option (Option Int × Bytes) :=
  match bytes with
  | b :: rest =>
    if b = Ascii.lowerE ∨ b = Ascii.upperE then
      let (negative, rest) := match rest with
        | Ascii.minus :: rest => (true, rest)
        | Ascii.plus :: rest => (false, rest)
        | rest => (false, rest)
      let (ds, rest) := spanDigits rest
      if ds.isEmpty then none
      else some (some (if negative then -(Decimal.value ds : Int) else Decimal.value ds), rest)
    else some (none, bytes)
  | [] => some (none, bytes)

def readFraction : Bytes → Option (List Char × Bytes)
  | Ascii.point :: rest =>
    let (ds, rest) := spanDigits rest
    if ds.isEmpty then none else some (ds, rest)
  | bytes => some ([], bytes)

def readNumber (bytes : Bytes) : Json × Remaining :=
  let (negative, body) := match bytes with
    | Ascii.minus :: rest => (true, rest)
    | rest => (false, rest)
  let (whole, rest) := spanDigits body
  if whole.isEmpty || (whole.head? == some '0' && whole.length != 1) then (broken, none)
  else
    match readFraction rest with
    | none => (broken, none)
    | some (fraction, rest) =>
      match readExponent rest with
      | none => (broken, none)
      | some (exponent, rest) =>
        let text := (bytes.take (bytes.length - rest.length)).map Char.ofUInt8
        (numberOf negative whole fraction exponent text, some rest)

def words : List (String × Json) := [("null", null), ("true", bool true), ("false", bool false)]

def readWord? (bytes : Bytes) : Option (Json × Bytes) :=
  words.findSome? fun (word, v) => ((Bytes.ofText word).isPrefixOf? bytes).map (v, ·)

def readPlain (bytes : Bytes) : Json × Remaining :=
  match readWord? bytes, bytes with
  | some (v, rest), _ => (v, some rest)
  | none, b :: _ =>
    if b = Ascii.minus ∨ Ascii.isDigit b then readNumber bytes else (broken, none)
  | none, [] => (broken, none)

def member (name value : Json) : String × Json :=
  match name with
  | string s => (s, value)
  | _ => ("", if value.isWhole then unnamed else broken)

mutual

def readValue : Nat → Bytes → Json × Remaining
  | 0, _ => (broken, none)
  | n + 1, bytes =>
    match skipBlanks bytes with
    | Ascii.leftBrace :: rest =>
      let (ms, remaining) := readMembers n true rest
      (object ms, remaining)
    | Ascii.leftBracket :: rest =>
      let (items, remaining) := readItems n true rest
      (array items, remaining)
    | Ascii.quote :: rest => readString rest
    | rest => readPlain rest

def readItems : Nat → Bool → Bytes → List Json × Remaining
  | 0, _, _ => ([broken], none)
  | n + 1, first, bytes =>
    match skipBlanks bytes with
    | Ascii.rightBracket :: rest => ([], some rest)
    | Ascii.comma :: rest => if first then ([broken], none) else readItem n rest
    | rest => if first then readItem n rest else ([broken], none)

def readItem : Nat → Bytes → List Json × Remaining
  | 0, _ => ([broken], none)
  | n + 1, bytes =>
    match readValue n bytes with
    | (v, none) => ([v], none)
    | (v, some rest) =>
      let (vs, remaining) := readItems n false rest
      (v :: vs, remaining)

def readMembers : Nat → Bool → Bytes → List (String × Json) × Remaining
  | 0, _, _ => ([("", broken)], none)
  | n + 1, first, bytes =>
    match skipBlanks bytes with
    | Ascii.rightBrace :: rest => ([], some rest)
    | Ascii.comma :: rest => if first then ([("", broken)], none) else readMember n rest
    | rest => if first then readMember n rest else ([("", broken)], none)

def readMember : Nat → Bytes → List (String × Json) × Remaining
  | 0, _ => ([("", broken)], none)
  | n + 1, bytes =>
    match skipBlanks bytes with
    | Ascii.quote :: rest =>
      match readString rest with
      | (name, some rest) =>
        match skipBlanks rest with
        | Ascii.colon :: rest =>
          match readValue n rest with
          | (v, none) => ([member name v], none)
          | (v, some rest) =>
            let (ms, remaining) := readMembers n false rest
            (member name v :: ms, remaining)
        | _ => ([member name broken], none)
      | (_, none) => ([("", broken)], none)
    | _ => ([("", broken)], none)

end

/-- Reads the first value that bytes write. Reading never fails: where the bytes stop being
JSON, the value holds `broken`. What follows the first value is left unread. -/
def read (bytes : Bytes) : Json := (readValue (2 * bytes.length + 2) bytes).1

end Json

end RedactableLedger
