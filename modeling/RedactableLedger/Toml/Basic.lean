namespace RedactableLedger

inductive TableOrigin where
  /-- A header named a table inside of it. -/
  | implicit
  | header
  /-- A dotted key went through it. -/
  | dotted
deriving DecidableEq, Repr

inductive Toml where
  | string (s : String)
  | integer (i : Int)
  | float (text : String)
  | boolean (b : Bool)
  | datetime (text : String)
  | array (items : List Toml)
  | inlineTable (members : List (String × Toml))
  | table (origin : TableOrigin) (members : List (String × Toml))
  | tables (elements : List (List (String × Toml)))
deriving Repr

namespace Toml

abbrev Members := List (String × Toml)

def lookup (ms : Members) (key : String) : Option Toml := (ms.find? (·.1 == key)).map (·.2)

def replace (ms : Members) (key : String) (v : Toml) : Members :=
  ms.map fun m => if m.1 = key then (key, v) else m

def append (ms : Members) (key : String) (v : Toml) : Members := ms ++ [(key, v)]

/-- Changes the table at the end of a path. Tables that are not there yet are made on the way. A
dotted path does not go into a table that has a header. -/
def update (dotted : Bool) (f : TableOrigin → Members → Option Members) :
    TableOrigin → List String → Members → Option Members
  | origin, [], ms => f origin ms
  | _, key :: path, ms =>
    match lookup ms key with
    | none =>
      let origin := if dotted then .dotted else .implicit
      (update dotted f origin path []).map fun inner => append ms key (.table origin inner)
    | some (.table origin inner) =>
      if dotted ∧ origin = .header then none
      else (update dotted f origin path inner).map fun inner =>
        replace ms key (.table origin inner)
    | some (.tables elements) =>
      match elements.reverse with
      | [] => none
      | last :: earlier =>
        (update dotted f .header path last).map fun last =>
          replace ms key (.tables (earlier.reverse ++ [last]))
    | some _ => none

/-- Puts a new member into a table. A dotted key only adds to a table of dotted keys. -/
def addMember (isDotted : Bool) (key : String) (v : Toml) (origin : TableOrigin)
    (ms : Members) :
    Option Members :=
  if isDotted ∧ origin ≠ .dotted then none
  else if (lookup ms key).isSome then none
  else some (append ms key v)

def splitKey : List String → Option (List String × String)
  | [] => none
  | name :: rest =>
    match splitKey rest with
    | none => some ([], name)
    | some (path, last) => some (name :: path, last)

def putKey (key : List String) (v : Toml) (ms : Members) : Option Members :=
  match splitKey key with
  | none => none
  | some (path, name) => update true (addMember (!path.isEmpty) name v) .header path ms

def openTable (key : List String) (ms : Members) : Option Members :=
  match splitKey key with
  | none => none
  | some (path, name) =>
    update false (fun _ inner =>
      match lookup inner name with
      | none => some (append inner name (.table .header []))
      | some (.table .implicit members) => some (replace inner name (.table .header members))
      | some _ => none) .header path ms

def openElement (key : List String) (ms : Members) : Option Members :=
  match splitKey key with
  | none => none
  | some (path, name) =>
    update false (fun _ inner =>
      match lookup inner name with
      | none => some (append inner name (.tables [[]]))
      | some (.tables elements) => some (replace inner name (.tables (elements ++ [[]])))
      | some _ => none) .header path ms

def putOpen (opened key : List String) (v : Toml) (ms : Members) : Option Members :=
  update false (fun _ inner => putKey key v inner) .header opened ms

end Toml

end RedactableLedger
