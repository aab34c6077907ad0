import RedactableLedger.Regex.Reader
import RedactableLedger.Text.Blank
import RedactableLedger.Text.Decimal
import RedactableLedger.Text.Letter
import RedactableLedger.Text.Offset

namespace RedactableLedger

namespace LogFilter

inductive DirectiveFault where
  | malformed
  | unknownLevel
  | badField (cause : Regex.Fault)
deriving DecidableEq, Repr

/-- The levels, from the one that lets no line through to the one that lets every line
through. -/
def levels : List String := ["off", "error", "warn", "info", "debug", "trace"]

def DirectiveFault.message : DirectiveFault → String
  | malformed => "invalid filter directive"
  | unknownLevel =>
    "error parsing level filter: expected one of " ++
      String.join (levels.map fun level => "\"" ++ level ++ "\", ") ++ "or a number 0-5"
  | badField cause => "invalid field filter: " ++ cause.message

/-- Whether a text is the name of a level, with letters of any case, or its number. -/
def isLevel (cs : List Char) : Bool :=
  let digits := match cs with
    | '+' :: rest => rest
    | _ => cs
  (Decimal.value? digits).any (· < levels.length) ||
    levels.any fun level => level.toList == cs.map Char.toLower

def levelFault? (cs : List Char) : Option DirectiveFault :=
  if cs.isEmpty || isLevel cs then none else some .unknownLevel

def fieldFault? (cs : List Char) : Option DirectiveFault :=
  match cs.dropWhile (· ≠ '=') with
  | [] => none
  | _ :: rest =>
    let value := rest.takeWhile (· ≠ '=')
    if Decimal.isNumber value then none
    else (Regex.fault? (String.ofList value)).map .badField

/-- A directive as it is given, with blanks around it, and without them. -/
structure Directive where
  given : List Char
  trimmed : List Char

namespace Directive

def ofText (text : String) : Directive := ⟨text.toList, (Text.trim text).toList⟩

/-- What is given from the place onward at which the rest of the trimmed directive starts. The
blanks before the directive are not taken into account, so that as many bytes before the rest
come with it. -/
def givenFrom (d : Directive) (rest : List Char) : List Char :=
  Text.dropSize (Text.size d.trimmed - Text.size rest) d.given

def levelFault? (d : Directive) (rest : List Char) : Option DirectiveFault :=
  LogFilter.levelFault? (d.givenFrom rest)

def fieldFault? (d : Directive) (field rest : List Char) : Option DirectiveFault :=
  LogFilter.fieldFault? (Text.takeSize (Text.size field) (d.givenFrom (field ++ rest)))

def afterBrackets (d : Directive) : List Char → Option DirectiveFault
  | [] => none
  | '=' :: rest => d.levelFault? rest
  | _ => some .malformed

def afterField (d : Directive) : List Char → Option DirectiveFault
  | ']' :: rest => d.afterBrackets rest
  | _ => some .malformed

def inBrackets (d : Directive) (cs : List Char) : Option DirectiveFault :=
  match cs.dropWhile fun c => c ≠ ']' && c ≠ '\x7b' with
  | ']' :: rest => d.afterBrackets rest
  | _ :: rest =>
    match rest.span (· ≠ '\x7d') with
    | (c :: field, brace :: rest) =>
      (d.fieldFault? (c :: field) (brace :: rest)).or (d.afterField rest)
    | _ => some .malformed
  | [] => some .malformed

def isStart (c : Char) : Bool := isLetterOrNumeral c || c = '-' || c = ':' || c = '_'

def fault? (d : Directive) : Option DirectiveFault :=
  match d.trimmed with
  | [] => some .malformed
  | '[' :: rest => d.inBrackets rest
  | c :: rest =>
    if isStart c then
      match rest.dropWhile fun c => c ≠ '=' && c ≠ '[' with
      | [] => none
      | '=' :: rest => d.levelFault? rest
      | _ :: rest => d.inBrackets rest
    else some .malformed

end Directive

def fault? (directive : String) : Option DirectiveFault := (Directive.ofText directive).fault?

def directives (filter : String) : List String := (filter.splitOn ",").filter (· ≠ "")

def isWellFormed (filter : String) : Bool := (directives filter).all fun d => (fault? d).isNone

def warnings (filter : String) : List String :=
  (directives filter).filterMap fun d =>
    (fault? d).map fun fault => "ignoring \x60" ++ d ++ "\x60: " ++ fault.message

end LogFilter

end RedactableLedger
