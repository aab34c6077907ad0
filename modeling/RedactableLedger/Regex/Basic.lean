import RedactableLedger.Regex.Flags

namespace RedactableLedger

namespace Regex

structure Literal where
  char : Char
  isOctet : Bool
deriving DecidableEq, Repr

inductive CharSet where
  | literal (l : Literal)
  | range (first last : Literal)
  | named (negated : Bool)
  | shorthand (negated : Bool)
  | bracketed (negated : Bool) (set : CharSet)
  | union (sets : List CharSet)
  | combined (left right : CharSet)

inductive Atom where
  | literal (l : Literal)
  | anyChar
  | anchor
  | wordBoundary
  | shorthand (negated : Bool)
  | set (negated : Bool) (set : CharSet)

inductive Pattern where
  | atom (flags : Flags) (a : Atom)
  | flagChange
  | repeated (p : Pattern)
  | group (name : Option String) (p : Pattern)
  | sequence (ps : List Pattern)
  | choice (ps : List Pattern)

def Literal.isMatchable (f : Flags) (l : Literal) : Bool :=
  if f.unicode then !f.ignoreCase else !l.isOctet || l.char.toNat < 128

def Literal.isMember (f : Flags) (l : Literal) : Bool :=
  if f.unicode then !f.ignoreCase else l.char.toNat < 128

def namedIsMatchable (f : Flags) (negated : Bool) : Bool :=
  if f.unicode then !f.ignoreCase else !negated

def shorthandIsMatchable (f : Flags) (negated : Bool) : Bool := !f.unicode && !negated

def negationIsMatchable (f : Flags) (negated : Bool) : Bool := f.unicode || !negated

namespace CharSet

def ofList : List CharSet → CharSet
  | [s] => s
  | ss => union ss

mutual

def isMatchable (f : Flags) : CharSet → Bool
  | literal l => l.isMember f
  | range first last => first.isMember f && last.isMember f
  | named negated => namedIsMatchable f negated
  | shorthand negated => shorthandIsMatchable f negated
  | bracketed negated s => negationIsMatchable f negated && s.isMatchable f
  | union ss => allMatchable f ss
  | combined left right => left.isMatchable f && right.isMatchable f

def allMatchable (f : Flags) : List CharSet → Bool
  | [] => true
  | s :: ss => s.isMatchable f && allMatchable f ss

end

mutual

def depth : CharSet → Nat
  | bracketed _ s => s.depth + 1
  | union [] => 0
  | union (s :: ss) => max s.depth (greatestDepth ss) + 1
  | combined left right => max left.depth right.depth + 1
  | _ => 0

def greatestDepth : List CharSet → Nat
  | [] => 0
  | s :: ss => max s.depth (greatestDepth ss)

end

end CharSet

namespace Atom

def isMatchable (f : Flags) : Atom → Bool
  | literal l => l.isMatchable f
  | anyChar => f.unicode
  | anchor | wordBoundary => true
  | shorthand negated => shorthandIsMatchable f negated
  | set negated s => negationIsMatchable f negated && s.isMatchable f

def isUnicodeBoundary (f : Flags) : Atom → Bool
  | wordBoundary => f.unicode
  | _ => false

def depth : Atom → Nat
  | set _ s => s.depth + 1
  | _ => 0

end Atom

namespace Pattern

def ofSequence : List Pattern → Pattern
  | [p] => p
  | ps => sequence ps

def ofChoice : List Pattern → Pattern
  | [p] => p
  | ps => choice ps

mutual

def atoms : Pattern → List (Flags × Atom)
  | atom f a => [(f, a)]
  | flagChange => []
  | repeated p => p.atoms
  | group _ p => p.atoms
  | sequence ps => allAtoms ps
  | choice ps => allAtoms ps

def allAtoms : List Pattern → List (Flags × Atom)
  | [] => []
  | p :: ps => p.atoms ++ allAtoms ps

end

mutual

def names : Pattern → List String
  | atom _ _ => []
  | flagChange => []
  | repeated p => p.names
  | group name p => name.toList ++ p.names
  | sequence ps => allNames ps
  | choice ps => allNames ps

def allNames : List Pattern → List String
  | [] => []
  | p :: ps => p.names ++ allNames ps

end

mutual

def depth : Pattern → Nat
  | atom _ a => a.depth
  | flagChange => 0
  | repeated p => p.depth + 1
  | group _ p => p.depth + 1
  | sequence [] => 0
  | sequence (p :: ps) => max p.depth (greatestDepth ps) + 1
  | choice ps => greatestDepth ps + 1

def greatestDepth : List Pattern → Nat
  | [] => 0
  | p :: ps => max p.depth (greatestDepth ps)

end

end Pattern

end Regex

end RedactableLedger
