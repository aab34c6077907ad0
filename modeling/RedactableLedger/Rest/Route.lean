import RedactableLedger.Octets
import RedactableLedger.Text.Hex

namespace RedactableLedger

inductive Route where
  | health
  | metrics
  | account
  | funds
  | config
  | stake
  | update
  | delete
  | signature
  | transaction (name : String)
  | accountView (name : String)
deriving DecidableEq, Repr

inductive RouteMethod where
  | get
  | post
deriving DecidableEq, Repr

namespace Route

def method : Route → RouteMethod
  | health | metrics | transaction _ | accountView _ => .get
  | _ => .post

def isSchemeChar (c : Char) : Bool := c.isAlphanum || c = '+' || c = '-' || c = '.'

def beforeQuery (cs : List Char) : List Char := cs.takeWhile fun c => c ≠ '?' && c ≠ '#'

/-- The path of a request's target: a path, or a path after a scheme and an authority, where it
may be left out. Any other target has no path. -/
def pathOf (target : String) : String :=
  match target.toList with
  | '/' :: rest => String.ofList ('/' :: beforeQuery rest)
  | cs =>
    match cs.dropWhile isSchemeChar with
    | ':' :: '/' :: '/' :: rest =>
      let path := (beforeQuery rest).dropWhile (· ≠ '/')
      if path.isEmpty then "/" else String.ofList path
    | _ => ""

def ofPath? (path : String) : Option Route :=
  match path.splitOn "/" with
  | ["", "health"] => some health
  | ["", "metrics"] => some metrics
  | ["", "tx", "acc"] => some account
  | ["", "tx", "funds"] => some funds
  | ["", "tx", "config"] => some config
  | ["", "tx", "stake"] => some stake
  | ["", "tx", "update"] => some update
  | ["", "tx", "delete"] => some delete
  | ["", "tx", "signature"] => some signature
  | ["", "tx", name] => if name = "" then none else some (transaction name)
  | ["", "account", name] => if name = "" then none else some (accountView name)
  | _ => none

/-- Reads a percent sign and two hexadecimal digits as a byte, and all else as it is. -/
def unescape : Bytes → Bytes
  | [] => []
  | 37 :: high :: low :: rest =>
    match Hex.value? high, Hex.value? low with
    | some h, some l => (h * 16 + l) :: unescape rest
    | _, _ => 37 :: unescape (high :: low :: rest)
  | b :: rest => b :: unescape rest

def decodeName (name : String) : Option String := Bytes.toText? (unescape (Bytes.ofText name))

end Route

end RedactableLedger
