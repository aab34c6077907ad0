namespace RedactableLedger

inductive LogFormat where
  | pretty
  | json
deriving DecidableEq, Repr

namespace LogFormat

def all : List LogFormat := [pretty, json]

def name : LogFormat → String
  | pretty => "pretty"
  | json => "json"

def ofName? (s : String) : Option LogFormat := all.find? (·.name == s)

/-- The format that a text asks for: JSON if it is the name of that format with letters of any
case, and the one for people otherwise. -/
def ofText (s : String) : LogFormat :=
  if s.toList.map Char.toLower = json.name.toList then json else pretty

end LogFormat

end RedactableLedger
