import RedactableLedger.Regex.Basic
import RedactableLedger.Text.Blank
import RedactableLedger.Text.Hex
import RedactableLedger.Text.Letter

namespace RedactableLedger

namespace Regex

/-- What comes after blanks and comments; a comment goes on to the end of its line. -/
def skipFrom (inComment : Bool) : List Char → List Char
  | [] => []
  | c :: rest =>
    if inComment then skipFrom (c ≠ '\n') rest
    else if isBlank c then skipFrom false rest
    else if c = '#' then skipFrom true rest
    else c :: rest

def skipBlanks (f : Flags) (cs : List Char) : List Char :=
  if f.verbose then skipFrom false cs else cs

/-- The character that is seen next: if blanks do not count, past blanks and the sign of one
comment, unless nothing comes after them. -/
def peek (f : Flags) (cs : List Char) : Option Char :=
  if f.verbose then
    let seen := match cs.dropWhile isBlank with
      | '#' :: rest => rest.dropWhile isBlank
      | rest => rest
    seen.head?.or cs.head?
  else cs.head?

def readDigits (f : Flags) : Nat → List Char → Option (List Char × List Char)
  | 0, cs => some ([], cs)
  | n + 1, cs =>
    match skipBlanks f cs with
    | [] => none
    | c :: rest => (readDigits f n rest).map fun (ds, rest) => (c :: ds, rest)

/-- Reads a character that is given by the hexadecimal digits of its code point. -/
def readCode (f : Flags) (count : Nat) (cs : List Char) : Option (Atom × List Char) := do
  let (digits, rest) ← readDigits f count cs
  return (.literal ⟨← Hex.charOfDigits? digits, count = 2⟩, rest)

/-- The characters of control that a letter after a backslash stands for. -/
def controls : List (Char × Nat) :=
  [('a', 7), ('t', 9), ('n', 10), ('v', 11), ('f', 12), ('r', 13)]

/-- The atom that a character after a backslash is: a letter of a class or an assertion, a
character of control, or itself if it is neither a letter, a digit nor an angle bracket of
ASCII. -/
def escaped? (c : Char) : Option Atom :=
  if ['d', 's', 'w'].contains c then some (.shorthand false)
  else if ['D', 'S', 'W'].contains c then some (.shorthand true)
  else if ['A', 'z'].contains c then some .anchor
  else if ['b', 'B', '<', '>'].contains c then some .wordBoundary
  else
    match controls.lookup c with
    | some code => some (.literal ⟨Char.ofNat code, false⟩)
    | none => if c.toNat < 128 && !c.isAlphanum then some (.literal ⟨c, false⟩) else none

def readEscape (f : Flags) : List Char → Option (Atom × List Char)
  | 'x' :: rest => readCode f 2 rest
  | 'u' :: rest => readCode f 4 rest
  | 'U' :: rest => readCode f 8 rest
  | c :: rest => (escaped? c).map (·, rest)
  | [] => none

def CharSet.ofAtom? : Atom → Option CharSet
  | .literal l => some (.literal l)
  | .shorthand negated => some (.shorthand negated)
  | _ => none

def CharSet.between? : Atom → Atom → Option CharSet
  | .literal first, .literal last =>
    if first.char ≤ last.char then some (.range first last) else none
  | _, _ => none

def readMember (f : Flags) : List Char → Option (Atom × List Char)
  | '\\' :: rest => readEscape f rest
  | c :: rest => some (.literal ⟨c, false⟩, rest)
  | [] => none

/-- Reads a member of a set or a range. A hyphen makes no range before another or at the end. -/
def readRange (f : Flags) (cs : List Char) : Option (CharSet × List Char) := do
  let (first, rest) ← readMember f cs
  match skipBlanks f rest with
  | '-' :: after =>
    if peek f after = some ']' ∨ peek f after = some '-' then
      return (← CharSet.ofAtom? first, '-' :: after)
    else
      let (last, rest) ← readMember f (skipBlanks f after)
      return (← CharSet.between? first last, rest)
  | rest => return (← CharSet.ofAtom? first, rest)

def classNames : List String :=
  ["alnum", "alpha", "ascii", "blank", "cntrl", "digit", "graph", "lower", "print", "punct",
    "space", "upper", "word", "xdigit"]

/-- Reads a class between colons after its opening bracket, if one stands there. -/
def readNamed? : List Char → Option (CharSet × List Char)
  | ':' :: cs =>
    let (negated, cs) := match cs with
      | '^' :: rest => (true, rest)
      | _ => (false, cs)
    match cs.span (· ≠ ':') with
    | (name, ':' :: ']' :: rest) =>
      if classNames.contains (String.ofList name) then some (.named negated, rest) else none
    | _ => none
  | _ => none

/-- Reads hyphens that stand for themselves. The first argument bounds their number. -/
def readHyphens (f : Flags) : Nat → List Char → List CharSet × List Char
  | n + 1, '-' :: rest =>
    let (hyphens, rest) := readHyphens f n (skipBlanks f rest)
    (.literal ⟨'-', false⟩ :: hyphens, rest)
  | _, cs => ([], cs)

/-- Reads the start of a set after its opening bracket: whether it is negated, and the hyphens,
or the bracket, that stand for themselves there. -/
def readOpening (f : Flags) (cs : List Char) : Bool × List CharSet × List Char :=
  let (negated, cs) := match skipBlanks f cs with
    | '^' :: rest => (true, skipBlanks f rest)
    | cs => (false, cs)
  match readHyphens f cs.length cs with
  | ([], ']' :: rest) => (negated, [.literal ⟨']', false⟩], rest)
  | (hyphens, rest) => (negated, hyphens, rest)

/-- A set of members, which come last first, combined with what stands before it. -/
def CharSet.combine (left : Option CharSet) (members : List CharSet) : CharSet :=
  let right := CharSet.ofList members.reverse
  match left with
  | none => right
  | some left => combined left right

/-- Reads a set up to its closing bracket, collecting its members backwards. The first argument
bounds the steps. -/
def readSet (f : Flags) : Nat → Option CharSet → List CharSet → List Char →
    Option (CharSet × List Char)
  | 0, _, _, _ => none
  | n + 1, left, members, cs =>
    match skipBlanks f cs with
    | [] => none
    | ']' :: rest => some (CharSet.combine left members, rest)
    | '[' :: rest =>
      match readNamed? rest with
      | some (s, rest) => readSet f n left (s :: members) rest
      | none => do
        let (negated, first, rest) := readOpening f rest
        let (s, rest) ← readSet f n none first rest
        readSet f n left (.bracketed negated s :: members) rest
    | '&' :: '&' :: rest => readSet f n (some (CharSet.combine left members)) [] rest
    | '-' :: '-' :: rest => readSet f n (some (CharSet.combine left members)) [] rest
    | '~' :: '~' :: rest => readSet f n (some (CharSet.combine left members)) [] rest
    | cs => do
      let (s, rest) ← readRange f cs
      readSet f n left (s :: members) rest

def startsName (c : Char) : Bool := c = '_' || isLetter c

def continuesName (c : Char) : Bool :=
  ['_', '.', '[', ']'].contains c || isLetterOrNumeral c

inductive Opening where
  | flagChange (flags : Flags)
  | group (name : Option String) (flags : Flags)

def readName (f : Flags) (cs : List Char) : Option (Opening × List Char) :=
  match cs.span (· ≠ '>') with
  | (c :: name, _ :: rest) =>
    if startsName c && name.all continuesName then
      some (.group (some (String.ofList (c :: name))) f, rest)
    else none
  | _ => none

/-- Reads letters of flags, and whether they hold for a group or for what comes after them. -/
def readFlags (f : Flags) (cs : List Char) : Option (Opening × List Char) :=
  let (change, rest) := cs.span fun c => c ≠ ':' && c ≠ ')'
  if Flags.isChange change then
    match rest with
    | ':' :: rest => some (.group none (f.change change), rest)
    | ')' :: rest => if change.isEmpty then none else some (.flagChange (f.change change), rest)
    | _ => none
  else none

def readGroupStart (f : Flags) (cs : List Char) : Option (Opening × List Char) :=
  match skipBlanks f cs with
  | '?' :: 'P' :: '<' :: rest => readName f rest
  | '?' :: '<' :: rest => readName f rest
  | '?' :: rest => readFlags f rest
  | rest => some (.group none f, rest)

/-- A pattern under way: the alternatives before the last one, and the parts of that one. Both
come last first. -/
structure Draft where
  alternatives : List Pattern
  parts : List Pattern

namespace Draft

def empty : Draft := ⟨[], []⟩

def add (d : Draft) (p : Pattern) : Draft := { d with parts := p :: d.parts }

def alternative (d : Draft) : Draft :=
  ⟨Pattern.ofSequence d.parts.reverse :: d.alternatives, []⟩

def finish (d : Draft) : Pattern := Pattern.ofChoice d.alternative.alternatives.reverse

def repeatLast? (d : Draft) : Option Draft :=
  match d.parts with
  | [] | .flagChange :: _ => none
  | p :: ps => some { d with parts := .repeated p :: ps }

end Draft

/-- What comes after the question mark of a repetition that takes as little as it can. -/
def skipLazy : List Char → List Char
  | '?' :: rest => rest
  | cs => cs

def readAtom (f : Flags) (c : Char) (rest : List Char) : Option (Atom × List Char) :=
  if c = '\\' then readEscape f rest
  else if c = '.' then some (.anyChar, rest)
  else if c = '^' ∨ c = '$' then some (.anchor, rest)
  else some (.literal ⟨c, false⟩, rest)

/-- Reads a pattern up to the parenthesis that closes it or to the end. The first argument
bounds the steps. -/
def readDraft : Nat → Flags → Draft → List Char → Option (Pattern × List Char)
  | 0, _, _, _ => none
  | n + 1, f, d, cs =>
    match skipBlanks f cs with
    | [] => some (d.finish, [])
    | ')' :: rest => some (d.finish, ')' :: rest)
    | '|' :: rest => readDraft n f d.alternative rest
    | '(' :: rest => do
      match ← readGroupStart f rest with
      | (.flagChange f, rest) => readDraft n f (d.add .flagChange) rest
      | (.group name inner, rest) =>
        match ← readDraft n inner .empty rest with
        | (p, _ :: rest) => readDraft n f (d.add (.group name p)) rest
        | _ => none
    | '[' :: rest => do
      let (negated, first, rest) := readOpening f rest
      let (s, rest) ← readSet f (rest.length + 1) none first rest
      readDraft n f (d.add (.atom f (.set negated s))) rest
    | '\x7b' :: _ => none
    | c :: rest =>
      if c = '?' ∨ c = '*' ∨ c = '+' then do
        readDraft n f (← d.repeatLast?) (skipLazy rest)
      else do
        let (a, rest) ← readAtom f c rest
        readDraft n f (d.add (.atom f a)) rest

def read? (text : String) : Option Pattern :=
  match readDraft (text.length + 1) .initial .empty text.toList with
  | some (p, []) => some p
  | _ => none

inductive Fault where
  | unreadable
  | unicodeBoundary
deriving DecidableEq, Repr

def Fault.message : Fault → String
  | unreadable => "error building NFA"
  | unicodeBoundary =>
    "unsupported regex feature for DFAs: cannot build DFAs for regexes with " ++
      "Unicode word boundaries; switch to ASCII word boundaries, or " ++
      "heuristically enable Unicode word boundaries or use a different regex engine"

def maxDepth : Nat := 250

def Pattern.isMatchable (p : Pattern) : Bool :=
  p.names.Nodup && p.depth ≤ maxDepth && p.atoms.all fun (f, a) => a.isMatchable f

def fault? (text : String) : Option Fault :=
  match read? text with
  | none => some .unreadable
  | some p =>
    if !p.isMatchable then some .unreadable
    else if p.atoms.any fun (f, a) => a.isUnicodeBoundary f then some .unicodeBoundary
    else none

end Regex

end RedactableLedger
