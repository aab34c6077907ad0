import RedactableLedger.Text.Hex
import RedactableLedger.Toml.Scalar

namespace RedactableLedger

namespace Toml

/-- The text from its first character that is neither a blank nor a tab. -/
def skipSpaces (cs : List Char) : List Char := cs.dropWhile fun c => c = ' ' || c = '\t'

/-- Whether a character may stand in a comment: no control character but the tab. -/
def isPlain (c : Char) : Bool := c = '\t' || (32 ≤ c.toNat && c.toNat ≠ 127)

def newline? : List Char → Option (List Char)
  | '\n' :: rest => some rest
  | '\r' :: '\n' :: rest => some rest
  | _ => none

def skipComment : List Char → List Char
  | '#' :: rest => rest.dropWhile isPlain
  | cs => cs

def endLine? (cs : List Char) : Option (List Char) :=
  match skipComment (skipSpaces cs) with
  | [] => some []
  | rest => newline? rest

/-- The text after blanks, line breaks and comments. The first argument bounds their number. -/
def skipLines : Nat → List Char → List Char
  | 0, cs => cs
  | n + 1, cs =>
    let rest := skipComment (skipSpaces cs)
    match newline? rest with
    | some rest => skipLines n rest
    | none => rest

def readEscape : List Char → Option (Char × List Char)
  | 'b' :: rest => some (Char.ofNat 8, rest)
  | 't' :: rest => some ('\t', rest)
  | 'n' :: rest => some ('\n', rest)
  | 'f' :: rest => some (Char.ofNat 12, rest)
  | 'r' :: rest => some ('\r', rest)
  | '"' :: rest => some ('"', rest)
  | '\\' :: rest => some ('\\', rest)
  | 'u' :: rest =>
    if (rest.take 4).length = 4 then (Hex.charOfDigits? (rest.take 4)).map (·, rest.drop 4)
      else none
  | 'U' :: rest =>
    if (rest.take 8).length = 8 then (Hex.charOfDigits? (rest.take 8)).map (·, rest.drop 8)
      else none
  | _ => none

def readBasic : Nat → List Char → List Char → Option (String × List Char)
  | 0, _, _ => none
  | _ + 1, acc, '"' :: rest => some (String.ofList acc.reverse, rest)
  | n + 1, acc, '\\' :: rest =>
    match readEscape rest with
    | some (c, rest) => readBasic n (c :: acc) rest
    | none => none
  | n + 1, acc, c :: rest => if isPlain c then readBasic n (c :: acc) rest else none
  | _ + 1, _, [] => none

def readLiteral (cs : List Char) : Option (String × List Char) :=
  match cs.dropWhile fun c => isPlain c && c ≠ '\'' with
  | '\'' :: rest => some (String.ofList (cs.takeWhile fun c => isPlain c && c ≠ '\''), rest)
  | _ => none

/-- The end of a string of several lines, after its three closing quotes: up to two more quotes
still belong to it. -/
def closeLines (quote : Char) (acc : List Char) (rest : List Char) : String × List Char :=
  let extra := (rest.takeWhile (· = quote)).take 2
  (String.ofList (acc.reverse ++ extra), rest.drop extra.length)

def skipBreaks : List Char → List Char
  | ' ' :: rest => skipBreaks rest
  | '\t' :: rest => skipBreaks rest
  | '\n' :: rest => skipBreaks rest
  | '\r' :: '\n' :: rest => skipBreaks rest
  | cs => cs

/-- What comes after a backslash at the end of a line and the blanks and line breaks after
it. -/
def joinLines? (cs : List Char) : Option (List Char) :=
  (newline? (skipSpaces cs)).map skipBreaks

def readBasicLines : Nat → List Char → List Char → Option (String × List Char)
  | 0, _, _ => none
  | _ + 1, acc, '"' :: '"' :: '"' :: rest => some (closeLines '"' acc rest)
  | n + 1, acc, '\\' :: rest =>
    match joinLines? rest with
    | some rest => readBasicLines n acc rest
    | none =>
      match readEscape rest with
      | some (c, rest) => readBasicLines n (c :: acc) rest
      | none => none
  | n + 1, acc, '\n' :: rest => readBasicLines n ('\n' :: acc) rest
  | n + 1, acc, '\r' :: '\n' :: rest => readBasicLines n ('\n' :: acc) rest
  | n + 1, acc, c :: rest => if isPlain c then readBasicLines n (c :: acc) rest else none
  | _ + 1, _, [] => none

def readLiteralLines : Nat → List Char → List Char → Option (String × List Char)
  | 0, _, _ => none
  | _ + 1, acc, '\'' :: '\'' :: '\'' :: rest => some (closeLines '\'' acc rest)
  | n + 1, acc, '\n' :: rest => readLiteralLines n ('\n' :: acc) rest
  | n + 1, acc, '\r' :: '\n' :: rest => readLiteralLines n ('\n' :: acc) rest
  | n + 1, acc, c :: rest => if isPlain c then readLiteralLines n (c :: acc) rest else none
  | _ + 1, _, [] => none

def skipNewline (cs : List Char) : List Char := (newline? cs).getD cs

def readString (cs : List Char) : Option (String × List Char) :=
  match cs with
  | '"' :: '"' :: '"' :: rest => readBasicLines (rest.length + 1) [] (skipNewline rest)
  | '"' :: rest => readBasic (rest.length + 1) [] rest
  | '\'' :: '\'' :: '\'' :: rest => readLiteralLines (rest.length + 1) [] (skipNewline rest)
  | '\'' :: rest => readLiteral rest
  | _ => none

def isBareChar (c : Char) : Bool := c.isAlphanum || c = '_' || c = '-'

def readName (cs : List Char) : Option (String × List Char) :=
  match cs with
  | '"' :: rest => readBasic (rest.length + 1) [] rest
  | '\'' :: rest => readLiteral rest
  | cs =>
    let name := cs.takeWhile isBareChar
    if name.isEmpty then none else some (String.ofList name, cs.dropWhile isBareChar)

/-- The greatest number of names in a key, and of values inside each other. -/
def depthLimit : Nat := 80

/-- Reads the names of a key, with dots between them, and the blanks around them. -/
def readNames : Nat → List Char → Option (List String × List Char)
  | 0, _ => none
  | n + 1, cs => do
    let (name, rest) ← readName (skipSpaces cs)
    match skipSpaces rest with
    | '.' :: rest =>
      let (names, rest) ← readNames n rest
      return (name :: names, rest)
    | rest => return ([name], rest)

def readKey (cs : List Char) : Option (List String × List Char) := readNames (depthLimit - 1) cs

mutual

/-- Reads a value. The first argument bounds the steps, the second the depth. -/
def readValue : Nat → Nat → List Char → Option (Toml × List Char)
  | 0, _, _ => none
  | n + 1, depth, cs =>
    match cs with
    | '[' :: rest =>
      if depth + 1 < depthLimit then
        (readItems n (depth + 1) [] rest).map fun (items, rest) => (.array items, rest)
      else none
    | '\x7b' :: rest =>
      if depth + 1 < depthLimit then
        (readInline n (depth + 1) rest).map fun (ms, rest) => (.inlineTable ms, rest)
      else none
    | '"' :: _ => (readString cs).map fun (s, rest) => (.string s, rest)
    | '\'' :: _ => (readString cs).map fun (s, rest) => (.string s, rest)
    | cs => readScalar cs

def readItems : Nat → Nat → List Toml → List Char → Option (List Toml × List Char)
  | 0, _, _, _ => none
  | n + 1, depth, acc, cs =>
    match skipLines (cs.length + 1) cs with
    | ']' :: rest => some (acc.reverse, rest)
    | cs => do
      let (v, rest) ← readValue n depth cs
      match skipLines (rest.length + 1) rest with
      | ',' :: rest => readItems n depth (v :: acc) rest
      | ']' :: rest => return ((v :: acc).reverse, rest)
      | _ => none

def readInline : Nat → Nat → List Char → Option (Members × List Char)
  | 0, _, _ => none
  | n + 1, depth, cs =>
    match skipSpaces cs with
    | '\x7d' :: rest => some ([], rest)
    | cs => readPairs n depth [] cs

def readPairs : Nat → Nat → Members → List Char → Option (Members × List Char)
  | 0, _, _, _ => none
  | n + 1, depth, ms, cs => do
    let (key, rest) ← readKey cs
    let rest ← expect? '=' rest
    let (v, rest) ← readValue n depth (skipSpaces rest)
    let ms ← putKey key v ms
    match skipSpaces rest with
    | ',' :: rest => readPairs n depth ms rest
    | '\x7d' :: rest => return (ms, rest)
    | _ => none

end

/-- A document that is being read: its tables, and the key of the one that is open. -/
structure Draft where
  root : Members
  opened : List String

def readHeader (d : Draft) (cs : List Char) : Option (Draft × List Char) :=
  match cs with
  | '[' :: rest => do
    let (key, rest) ← readKey rest
    let rest ← expect? ']' rest
    let rest ← expect? ']' rest
    return (⟨← openElement key d.root, key⟩, rest)
  | cs => do
    let (key, rest) ← readKey cs
    let rest ← expect? ']' rest
    return (⟨← openTable key d.root, key⟩, rest)

def readPair (d : Draft) (cs : List Char) : Option (Draft × List Char) := do
  let (key, rest) ← readKey cs
  let rest ← expect? '=' rest
  let (v, rest) ← readValue (2 * rest.length + 2) 0 (skipSpaces rest)
  return ({ d with root := ← putOpen d.opened key v d.root }, rest)

def readLines : Nat → Draft → List Char → Option Members
  | 0, _, _ => none
  | n + 1, d, cs =>
    match skipLines (cs.length + 1) cs with
    | [] => some d.root
    | '[' :: rest => do
      let (d, rest) ← readHeader d rest
      readLines n d (← endLine? rest)
    | cs => do
      let (d, rest) ← readPair d cs
      readLines n d (← endLine? rest)

def skipMark : List Char → List Char
  | c :: rest => if c.toNat = 0xFEFF then rest else c :: rest
  | [] => []

def read (s : String) : Option Members :=
  let cs := skipMark s.toList
  readLines (cs.length + 1) ⟨[], []⟩ cs

end Toml

end RedactableLedger
