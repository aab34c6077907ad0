namespace RedactableLedger

def isBlank (c : Char) : Bool :=
  let v := c.toNat
  (9 ≤ v && v ≤ 13) || v == 0x20 || v == 0x85 || v == 0xA0 || v == 0x1680 ||
    (0x2000 ≤ v && v ≤ 0x200A) || v == 0x2028 || v == 0x2029 || v == 0x202F || v == 0x205F ||
    v == 0x3000

namespace Text

def trim (s : String) : String :=
  String.ofList ((s.toList.dropWhile isBlank).reverse.dropWhile isBlank).reverse

def fieldsAux : List Char → List Char → List (List Char)
  | [], [] => []
  | current, [] => [current.reverse]
  | current, c :: rest =>
    if isBlank c then
      match current with
      | [] => fieldsAux [] rest
      | current => current.reverse :: fieldsAux [] rest
    else fieldsAux (c :: current) rest

def fields (s : String) : List String := (fieldsAux [] s.toList).map String.ofList

def isBlankText (s : String) : Bool := s.toList.all isBlank

def startsWithChars : List Char → List Char → Bool
  | [], _ => true
  | _ :: _, [] => false
  | a :: as, b :: bs => a == b && startsWithChars as bs

def occursIn (needle : List Char) : List Char → Bool
  | [] => needle.isEmpty
  | c :: rest => startsWithChars needle (c :: rest) || occursIn needle rest

end Text

end RedactableLedger
