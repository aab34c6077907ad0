namespace RedactableLedger

inductive Json where
  | null
  | bool (b : Bool)
  | integer (i : Int)
  /-- A number with a fraction, with an exponent, or beyond 64 bits, by its text. -/
  | decimal (text : String)
  | string (s : String)
  | array (items : List Json)
  | object (members : List (String × Json))
  /-- A well-formed token without a value: a string with unpaired surrogates or of bytes that
  are no text, a number out of range. -/
  | valueless
  /-- A value that was read under a name without a value. -/
  | unnamed
  /-- Where the text stops being JSON. -/
  | broken
deriving Repr

namespace Json

def members : Json → List (String × Json)
  | object ms => ms
  | _ => []

def get? (v : Json) (name : String) : Option Json := (v.members.find? (·.1 == name)).map (·.2)

def escapeChar (c : Char) : List Char :=
  match c with
  | '"' => ['\\', '"']
  | '\\' => ['\\', '\\']
  | '\n' => ['\\', 'n']
  | '\r' => ['\\', 'r']
  | '\t' => ['\\', 't']
  | c =>
    if c.toNat = 8 then ['\\', 'b']
    else if c.toNat = 12 then ['\\', 'f']
    else if c.toNat < 32 then
      ['\\', 'u', '0', '0', Nat.digitChar (c.toNat / 16), Nat.digitChar (c.toNat % 16)]
    else [c]

def quote (s : String) : String :=
  String.ofList ('"' :: s.toList.flatMap escapeChar ++ ['"'])

mutual

def render : Json → String
  | null => "null"
  | bool true => "true"
  | bool false => "false"
  | integer i => toString i
  | decimal text => text
  | string s => quote s
  | array items => "[" ++ ",".intercalate (renderItems items) ++ "]"
  | object ms => "\x7b" ++ ",".intercalate (renderMembers ms) ++ "\x7d"
  | valueless => "null"
  | unnamed => "null"
  | broken => "null"

def renderItems : List Json → List String
  | [] => []
  | v :: rest => render v :: renderItems rest

def renderMembers : List (String × Json) → List String
  | [] => []
  | (name, v) :: rest => (quote name ++ ":" ++ render v) :: renderMembers rest

end

def lineBreak (depth : Nat) : String := String.ofList ('\n' :: List.replicate (2 * depth) ' ')

def bracketed (opening closing : String) (depth : Nat) (pieces : List String) : String :=
  if pieces.isEmpty then opening ++ closing
  else
    opening ++ lineBreak (depth + 1) ++ ("," ++ lineBreak (depth + 1)).intercalate pieces ++
      lineBreak depth ++ closing

mutual

def pretty (depth : Nat) : Json → String
  | array items => bracketed "[" "]" depth (prettyItems depth items)
  | object ms => bracketed "\x7b" "\x7d" depth (prettyMembers depth ms)
  | null => "null"
  | bool true => "true"
  | bool false => "false"
  | integer i => toString i
  | decimal text => text
  | string s => quote s
  | valueless => "null"
  | unnamed => "null"
  | broken => "null"

def prettyItems (depth : Nat) : List Json → List String
  | [] => []
  | v :: rest => pretty (depth + 1) v :: prettyItems depth rest

def prettyMembers (depth : Nat) : List (String × Json) → List String
  | [] => []
  | (name, v) :: rest =>
    (quote name ++ ": " ++ pretty (depth + 1) v) :: prettyMembers depth rest

end

mutual

def isWhole : Json → Bool
  | broken => false
  | array items => areWhole items
  | object ms => membersAreWhole ms
  | _ => true

def areWhole : List Json → Bool
  | [] => true
  | v :: rest => isWhole v && areWhole rest

def membersAreWhole : List (String × Json) → Bool
  | [] => true
  | (_, v) :: rest => isWhole v && membersAreWhole rest

end

end Json

end RedactableLedger
