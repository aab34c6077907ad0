import RedactableLedger.CommandLine.Grammar

namespace RedactableLedger

namespace CommandLine

abbrev Environment := List (String × String)

inductive Argument where
  /-- Two dashes alone, after which nothing is an option. -/
  | separator
  | long (name : String) (value : Option String)
  | short (letter : Char) (rest : List Char)
  | plain (s : String)
deriving DecidableEq, Repr

namespace Argument

/-- What stands before the first equals sign, and after it if there is one. -/
def splitValue (cs : List Char) : String × Option String :=
  match cs.span (· ≠ '=') with
  | (name, _ :: value) => (String.ofList name, some (String.ofList value))
  | (name, []) => (String.ofList name, none)

def ofText (s : String) : Argument :=
  match s.toList with
  | ['-', '-'] => separator
  | '-' :: '-' :: cs => let (name, value) := splitValue cs; long name value
  | '-' :: letter :: rest => short letter rest
  | _ => plain s

end Argument

inductive Source where
  | environment
  | arguments
deriving DecidableEq, Repr

structure Given where
  name : String
  value : OptionValue
  source : Source
deriving DecidableEq, Repr

/-- What was read of the options of one command. The last option waits for its value, or for its
value to be looked at. -/
structure Level where
  given : List Given
  pending : Option (OptionSpec × Option String)

namespace Level

def start : Level := ⟨[], none⟩

/-- Whether the next argument is a value if it does not look like an option. -/
def awaitsValue (l : Level) : Bool :=
  match l.pending with
  | some (_, none) => true
  | _ => false

def has (l : Level) (o : OptionSpec) : Bool := l.given.any (·.name == o.name)

/-- Takes the value of an option, which must be there and be the first one of this option. -/
def put (l : Level) (o : OptionSpec) (value : Option String) (source : Source) :
    Except UsageFault Level :=
  match value with
  | none => .error .badValue
  | some s =>
    if l.has o then .error .repeated
    else (o.kind.read s).map fun v => { l with given := l.given ++ [⟨o.name, v, source⟩] }

def settle (l : Level) : Except UsageFault Level :=
  match l.pending with
  | none => .ok l
  | some (o, value) => put { l with pending := none } o value .arguments

/-- Goes on with an option, and with its value if that is attached to it. -/
def take (l : Level) (o : OptionSpec) (value : Option String) : Except UsageFault Level := do
  let l ← l.settle
  match value with
  | some s => l.put o (some s) .arguments
  | none => return { l with pending := some (o, none) }

/-- Leaves the command line with a fault once the last option is settled. -/
def leave (l : Level) (fault : UsageFault) : Except UsageFault Level := do
  let _ ← l.settle
  throw fault

def takeLong (l : Level) (options : List OptionSpec) (name : String) (value : Option String) :
    Except UsageFault Level :=
  let special (fault : UsageFault) :=
    if value.isSome then .error .superfluousValue else l.leave fault
  if name = "help" then special .help
  else if name = "version" then special (.version [])
  else
    match options.find? (·.name == name) with
    | some o => l.take o value
    | none => .error .unknownArgument

def attached : List Char → Option String
  | [] => none
  | '=' :: value => some (String.ofList value)
  | value => some (String.ofList value)

def takeShort (l : Level) (options : List OptionSpec) (letter : Char) (rest : List Char) :
    Except UsageFault Level :=
  if letter = 'h' then l.leave .help
  else if letter = 'V' then l.leave (.version [])
  else
    match options.find? (·.letter == some letter) with
    | some o => l.take o (attached rest)
    | none => .error .unknownArgument

def supply (l : Level) (s : String) : Level :=
  { l with pending := l.pending.map fun (o, _) => (o, some s) }

def addVariables (environment : Environment) : List OptionSpec → Level → Except UsageFault Level
  | [], l => .ok l
  | o :: rest, l =>
    match o.fallback.bind (environment.lookup ·) with
    | none => addVariables environment rest l
    | some s =>
      if l.has o then addVariables environment rest l
      else (l.put o (some s) .environment) >>= addVariables environment rest

def finish (environment : Environment) (options : List OptionSpec) (l : Level) :
    Except UsageFault Level :=
  l.settle >>= addVariables environment options

end Level

/-- What was read: the names of the commands, and the options of each of them, the program
first. -/
structure Reading where
  path : List String
  levels : List (List Given)
deriving DecidableEq, Repr

namespace Reading

def incompleteness (c : CommandSpec) (l : Level) : Option UsageFault :=
  match c with
  | .group .. => some (if l.given.isEmpty then .nothingGiven else .missingCommand)
  | .leaf _ options =>
    if options.all fun o => !o.isRequired || l.has o then none else some .missingOption

def finish (g : Grammar) (environment : Environment) (c : CommandSpec) (l : Level) :
    Except UsageFault Reading := do
  let l ← l.finish environment (g.optionsOf c)
  match incompleteness c l with
  | some fault => throw fault
  | none => return ⟨[], [l.given]⟩

def strayFault (c : CommandSpec) : UsageFault :=
  if c.isGroup then .unknownCommand else .unknownArgument

def read (g : Grammar) (environment : Environment) (c : CommandSpec) (l : Level) :
    List String → Except UsageFault Reading
  | [] => finish g environment c l
  | argument :: rest =>
    match Argument.ofText argument with
    | .separator =>
      match rest with
      | [] => finish g environment c l
      | stray :: _ =>
        .error (if c.hasCommand stray then .unknownArgument else strayFault c)
    | .long name value => do
      let l ← l.takeLong (g.optionsOf c) name value
      read g environment c l rest
    | .short letter more => do
      let l ← l.takeShort (g.optionsOf c) letter more
      read g environment c l rest
    | .plain s =>
      if l.awaitsValue then read g environment c (l.supply s) rest
      else
        match c.find? s with
        | some sub => do
          let below ← (read g environment sub .start rest).mapError (·.below s)
          let l ← l.finish environment (g.optionsOf c)
          return ⟨s :: below.path, l.given :: below.levels⟩
        | none => .error (if c.hasCommand s then c.explain rest else strayFault c)

def ofArguments (g : Grammar) (environment : Environment) (arguments : List String) :
    Except UsageFault Reading :=
  read g environment g.root .start arguments

def find? (name : String) (given : List Given) : Option Given := given.find? (·.name == name)

/-- The one of two values that counts: that of the inner command, unless it comes from the
environment and the other one from an argument. -/
def prevailing (outer inner : Option Given) : Option Given :=
  match outer, inner with
  | some o, some i =>
    if o.source = .arguments ∧ i.source = .environment then some o else some i
  | none, i => i
  | o, none => o

def everywhere? (r : Reading) (name : String) : Option OptionValue :=
  ((r.levels.map (find? name)).foldl prevailing none).map (·.value)

def own? (r : Reading) (name : String) : Option OptionValue :=
  ((r.levels.getLast?.getD []).find? (·.name == name)).map (·.value)

def text? : Option OptionValue → Option String
  | some (.text s) => some s
  | _ => none

def number? : Option OptionValue → Option Nat
  | some (.number n) => some n
  | _ => none

def text (r : Reading) (name : String) : String := (text? (r.own? name)).getD ""

def number (r : Reading) (name : String) (otherwise : Nat) : Nat :=
  (number? (r.own? name)).getD otherwise

end Reading

end CommandLine

end RedactableLedger
