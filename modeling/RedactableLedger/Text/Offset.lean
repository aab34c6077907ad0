namespace RedactableLedger

namespace Text

def size : List Char → Nat
  | [] => 0
  | c :: cs => c.utf8Size + size cs

/-- The characters before a place, with the character that the place cuts. -/
def takeSize : Nat → List Char → List Char
  | 0, _ => []
  | _ + 1, [] => []
  | n + 1, c :: cs => c :: takeSize (n + 1 - c.utf8Size) cs

/-- The characters after a place, without the character that the place cuts. -/
def dropSize : Nat → List Char → List Char
  | 0, cs => cs
  | _ + 1, [] => []
  | n + 1, c :: cs => dropSize (n + 1 - c.utf8Size) cs

end Text

end RedactableLedger
