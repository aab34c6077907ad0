namespace RedactableLedger

namespace MediaType

def isTokenChar (c : Char) : Bool := c.isAlphanum || "!#$%&'*+-.^_\x60|~".toList.contains c

/-- The characters that stand between quotes: visible ASCII and the blank, but no quote. -/
def isQuotedChar (c : Char) : Bool := ' ' ≤ c && c ≤ '~' && c ≠ '"'

def spanToken (cs : List Char) : List Char × List Char :=
  (cs.takeWhile isTokenChar, cs.dropWhile isTokenChar)

def skipSpaces (cs : List Char) : List Char := cs.dropWhile (· = ' ')

/-- What comes after a text between quotes and the blanks after it, if it starts after an
opening quote. The text is not empty, and its first character may be a quote itself. -/
def skipQuoted? : List Char → Option (List Char)
  | [] => none
  | c :: rest =>
    if isQuotedChar c || c = '"' then
      match rest.dropWhile isQuotedChar with
      | '"' :: rest => some (skipSpaces rest)
      | _ => none
    else none

/-- What comes after the value of a parameter. Without quotes, only the last one may be
empty. -/
def skipValue? : List Char → Option (List Char)
  | '"' :: rest => skipQuoted? rest
  | cs =>
    match spanToken cs with
    | ([], _ :: _) => none
    | (_, rest) => some rest

/-- Whether a text is a list of parameters, each after a semicolon; the last one may be missing.
The first argument bounds their number. -/
def areParameters : Nat → List Char → Bool
  | _, [] => true
  | 0, _ => false
  | n + 1, ';' :: rest =>
    match spanToken (skipSpaces rest) with
    | (_ :: _, '=' :: rest) =>
      match skipValue? rest with
      | some rest => areParameters n rest
      | none => false
    | (name, rest) => name.isEmpty && rest.isEmpty
  | _, _ => false

/-- What stands before and after the last plus sign; all of it and nothing if there is none. -/
def splitSuffix (cs : List Char) : List Char × List Char :=
  match cs.reverse.span (· ≠ '+') with
  | (suffix, _ :: main) => if main.isEmpty then (cs, []) else (main.reverse, suffix.reverse)
  | (_, []) => (cs, [])

def lower (cs : List Char) : List Char := cs.map Char.toLower

/-- Whether a media type is that of JSON, or of a format that is written in JSON. -/
def isJson (mediaType : String) : Bool :=
  match spanToken mediaType.toList with
  | (type, '/' :: rest) =>
    let (subtype, rest) := spanToken rest
    let (main, suffix) := splitSuffix (lower subtype)
    lower type = "application".toList && areParameters (rest.length + 1) rest &&
      (main = "json".toList || suffix = "json".toList)
  | _ => false

end MediaType

end RedactableLedger
