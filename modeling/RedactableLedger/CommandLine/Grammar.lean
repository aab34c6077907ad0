import RedactableLedger.Text.Decimal

namespace RedactableLedger

namespace CommandLine

/-- Why a command line is not carried out: it asks for help or for the version, or it is
wrong. -/
inductive UsageFault where
  | help
  | version (command : List String)
  | nothingGiven
  | missingCommand
  | unknownCommand
  | unknownArgument
  | badValue
  | malformedValue
  | repeated
  | missingOption
  | superfluousValue
deriving DecidableEq, Repr

def UsageFault.code : UsageFault → UInt8
  | help | version _ => 0
  | _ => 2

def UsageFault.below (name : String) : UsageFault → UsageFault
  | version command => version (name :: command)
  | fault => fault

inductive ValueKind where
  | text
  | path
  | number (bound : Nat)
  | word (words : List String)
deriving DecidableEq, Repr

inductive OptionValue where
  | text (s : String)
  | number (n : Nat)
deriving DecidableEq, Repr

namespace ValueKind

def uint8 : ValueKind := number UInt8.size

def uint16 : ValueKind := number UInt16.size

def uint32 : ValueKind := number UInt32.size

def uint64 : ValueKind := number UInt64.size

/-- The number in a text, perhaps after a sign. Only zero may have a minus sign, and a number of
the full 64 bits may have none. -/
def natural? (bound : Nat) : List Char → Option Nat
  | '+' :: digits => (Decimal.value? digits).filter (· < bound)
  | '-' :: digits => (Decimal.value? digits).filter fun n => bound < UInt64.size && n == 0
  | digits => (Decimal.value? digits).filter (· < bound)

def read (s : String) : ValueKind → Except UsageFault OptionValue
  | text => .ok (.text s)
  | path => if s = "" then .error .badValue else .ok (.text s)
  | number bound =>
    match natural? bound s.toList with
    | some n => .ok (.number n)
    | none => .error .malformedValue
  | word words => if words.contains s then .ok (.text s) else .error .badValue

end ValueKind

structure OptionSpec where
  name : String
  letter : Option Char := none
  kind : ValueKind := .text
  isRequired : Bool := false
  /-- The environment variable that supplies the value if the command line does not. -/
  fallback : Option String := none
deriving DecidableEq, Repr

namespace OptionSpec

def required (name : String) (kind : ValueKind := .text) : OptionSpec :=
  { name, kind, isRequired := true }

def optional (name : String) (kind : ValueKind := .text) : OptionSpec := { name, kind }

end OptionSpec

inductive CommandSpec where
  | leaf (name : String) (options : List OptionSpec)
  | group (name : String) (commands : List CommandSpec)

namespace CommandSpec

def name : CommandSpec → String
  | leaf name _ => name
  | group name _ => name

def options : CommandSpec → List OptionSpec
  | leaf _ options => options
  | group .. => []

def isGroup : CommandSpec → Bool
  | leaf .. => false
  | group .. => true

def find? (c : CommandSpec) (s : String) : Option CommandSpec :=
  match c with
  | leaf .. => none
  | group _ commands => commands.find? (·.name == s)

def helpName : String := "help"

def hasCommand (c : CommandSpec) (s : String) : Bool :=
  c.isGroup && (s == helpName || (c.find? s).isSome)

def explain (c : CommandSpec) : List String → UsageFault
  | [] => .help
  | s :: rest =>
    match c.find? s with
    | some sub => sub.explain rest
    | none => if c.hasCommand s && rest.isEmpty then .help else .unknownCommand

end CommandSpec

/-- A grammar: the options that every command takes, and the command that the program itself
is. -/
structure Grammar where
  everywhere : List OptionSpec
  root : CommandSpec

def Grammar.optionsOf (g : Grammar) (c : CommandSpec) : List OptionSpec :=
  c.options ++ g.everywhere

end CommandLine

end RedactableLedger
