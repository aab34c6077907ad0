namespace RedactableLedger

namespace Regex

structure Flags where
  ignoreCase : Bool
  unicode : Bool
  verbose : Bool
deriving DecidableEq, Repr

namespace Flags

def initial : Flags := ⟨false, true, false⟩

/-- The letters of flags. All but three change only what a pattern matches. -/
def letters : List Char := ['i', 'm', 's', 'U', 'u', 'R', 'x']

/-- Whether characters change flags: each letter and the hyphen at most once, and a letter at
the end. -/
def isChange (cs : List Char) : Bool :=
  cs.all (fun c => c = '-' || letters.contains c) && cs.Nodup && cs.getLast? ≠ some '-'

/-- A flag after a change: letters before a hyphen turn flags on, those after it turn flags
off. -/
def changed (cs : List Char) (letter : Char) (flag : Bool) : Bool :=
  if cs.contains letter then (cs.takeWhile (· ≠ '-')).contains letter else flag

def change (f : Flags) (cs : List Char) : Flags where
  ignoreCase := changed cs 'i' f.ignoreCase
  unicode := changed cs 'u' f.unicode
  verbose := changed cs 'x' f.verbose

end Flags

end Regex

end RedactableLedger
