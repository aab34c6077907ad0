import RedactableLedger.Fault

namespace RedactableLedger

/-- The names on the way from the root to a file. -/
abbrev Path := List String

inductive Node where
  | file (content : Bytes) (mode : Nat)
  | directory
deriving DecidableEq

/-- Files and directories, with the working directory, which always exists. -/
structure Files where
  home : Path
  entries : List (Path × Node)
deriving DecidableEq

namespace Files

def empty : Files := ⟨[], []⟩

instance : Inhabited Files := ⟨empty⟩

/-- The file that is always empty: what is written to it is lost. -/
def nullDevice : Path := ["dev", "null"]

def rootDirectories : List String :=
  ["bin", "boot", "dev", "etc", "home", "lib", "media", "mnt", "opt", "proc", "root",
    "run", "sbin", "srv", "sys", "tmp", "usr", "var"]

def isGiven (files : Files) (path : Path) : Bool :=
  path.isPrefixOf files.home ||
    match path with
    | [name] => rootDirectories.contains name
    | _ => false

def isBelow (above : Path) (path : Path) : Bool :=
  above.length < path.length && path.take above.length == above

/-- What stands at a path; a directory exists when something is below it. -/
def node? (files : Files) (path : Path) : Option Node :=
  if path = nullDevice then some (.file [] 0o666)
  else if files.isGiven path then some .directory
  else
    match files.entries.find? (·.1 = path) with
    | some (_, node) => some node
    | none => if files.entries.any (isBelow path ·.1) then some .directory else none

def set (files : Files) (path : Path) (node : Node) : Files :=
  { files with entries := (path, node) :: files.entries.filter (·.1 ≠ path) }

def maxName : Nat := 255

def maxReference : Nat := 4096

def enter (directory : Path) (name : String) : Except AccessFault Path :=
  if name = "." then .ok directory
  else if name = ".." then .ok directory.dropLast
  else if maxName < name.utf8ByteSize then .error .nameTooLong
  else .ok (directory ++ [name])

/-- Follows names, each of which but the last must lead to a directory. -/
def follow (files : Files) (directory : Path) : List String → Except AccessFault Path
  | [] => .ok directory
  | name :: rest =>
    match files.node? directory with
    | none => .error .notFound
    | some (.file ..) => .error .notDirectory
    | some .directory =>
      match enter directory name with
      | .error e => .error e
      | .ok path => files.follow path rest

def names (reference : String) : List String :=
  (reference.splitOn "/").filter (· ≠ "")

def ofList (home : Path) (entries : List (String × Node)) : Files :=
  ⟨home, entries.map fun (name, node) => (home ++ names name, node)⟩

def start (files : Files) (reference : String) : Path :=
  if reference.startsWith "/" then [] else files.home

def namesDirectory (reference : String) : Bool := reference.toList.getLast? == some '/'

def refusal? (reference : String) : Option AccessFault :=
  if reference.toList.contains (Char.ofNat 0) then some .zeroInName
  else if reference = "" then some .notFound
  else if maxReference ≤ reference.utf8ByteSize then some .nameTooLong
  else none

/-- The path that a reference leads to, whether or not something stands there. -/
def locate (files : Files) (reference : String) : Except AccessFault Path :=
  match refusal? reference with
  | some fault => .error fault
  | none => files.follow (files.start reference) (names reference)

def contains (files : Files) (reference : String) : Bool :=
  match files.locate reference with
  | .error _ => false
  | .ok path =>
    match files.node? path with
    | none => false
    | some .directory => true
    | some (.file ..) => !namesDirectory reference

def read (files : Files) (reference : String) : Except AccessFault Bytes :=
  match files.locate reference with
  | .error e => .error e
  | .ok path =>
    match files.node? path with
    | none => .error .notFound
    | some .directory => .error .isDirectory
    | some (.file content _) =>
      if namesDirectory reference then .error .notDirectory else .ok content

def readText (files : Files) (reference : String) : Except AccessFault String :=
  match files.read reference with
  | .error e => .error e
  | .ok bytes =>
    match bytes.toText? with
    | some text => .ok text
    | none => .error .notText

/-- The permissions of a file that was created without asking for any. -/
def defaultMode : Nat := 0o644

def secretMode : Nat := 0o600

/-- Writes a file, creating it if needed, and gives it permissions if some are asked for. -/
def write (files : Files) (reference : String) (content : Bytes) (mode : Option Nat) :
    Except AccessFault Files :=
  match files.locate reference with
  | .error e => .error e
  | .ok path =>
    if namesDirectory reference then .error .isDirectory
    else
      match files.node? path with
      | some .directory => .error .isDirectory
      | some (.file _ old) =>
        if path = nullDevice then .ok files
        else .ok (files.set path (.file content (mode.getD old)))
      | none => .ok (files.set path (.file content (mode.getD defaultMode)))

def makeIn (files : Files) (above : Path) (name : String) : Except AccessFault Files :=
  match files.node? above with
  | none => .error .notFound
  | some (.file ..) => .error .notDirectory
  | some .directory =>
    if name = "." ∨ name = ".." then .error .alreadyExists
    else
      match enter above name with
      | .error e => .error e
      | .ok path =>
        if (files.node? path).isSome then .error .alreadyExists
        else .ok (files.set path .directory)

def makeLast (files : Files) (start : Path) : List String → Except AccessFault Files
  | [] => .error .alreadyExists
  | name :: above => do files.makeIn (← files.follow start above.reverse) name

def isDirectory (files : Files) (start : Path) (names : List String) : Bool :=
  match files.follow start names with
  | .ok path => files.node? path = some .directory
  | .error _ => false

/-- Makes the last of some names, which come last first, unless it is a directory already. -/
def ensureLast (files : Files) (start : Path) (names : List String) :
    Except AccessFault Unit × Files :=
  match files.makeLast start names with
  | .ok files => (.ok (), files)
  | .error e => (if files.isDirectory start names.reverse then .ok () else .error e, files)

/-- Makes the directories that names lead through, of which the last comes first. Those above
are only made if they are missing, and they stay also if a later one cannot be made. -/
def ensureAll (files : Files) (start : Path) : List String → Except AccessFault Unit × Files
  | [] => (.ok (), files)
  | name :: above =>
    match files.ensureLast start (name :: above) with
    | (.error .notFound, files) =>
      match files.ensureAll start above with
      | (.ok (), files) => files.ensureLast start (name :: above)
      | failed => failed
    | done => done

/-- Makes the directory that a reference names, and the directories above it, unless something
stands there. -/
def makeDirectory (files : Files) (reference : String) : Except AccessFault Unit × Files :=
  if files.contains reference then (.ok (), files)
  else
    match refusal? reference with
    | some fault => (.error fault, files)
    | none => files.ensureAll (files.start reference) (names reference).reverse

end Files

end RedactableLedger
