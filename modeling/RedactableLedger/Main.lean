import RedactableLedger.CommandLine.Run
import RedactableLedger.Store.Snapshot

namespace RedactableLedger

namespace Program

open CommandLine

def candidates (texts : List String) : List String :=
  (texts.flatMap fun s =>
    [s, (Argument.splitValue s.toList).2.getD "", (s.drop 2).toString]).map Text.trim

def withParents (reference : String) : List String :=
  let parts := reference.splitOn "/"
  (List.range parts.length).map fun n => "/".intercalate (parts.take (n + 1))

def readNode (reference : String) : IO (Option Node) := do
  try
    let content ← IO.FS.readBinFile reference
    return some (.file content.data.toList Files.defaultMode)
  catch
    | .inappropriateType .. => return some .directory
    | _ => return none

def readFiles (references : List String) : IO Files := do
  let mut files := Files.ofList (Files.names (← IO.currentDir).toString) []
  for reference in references do
    if reference ≠ "" then
      match files.locate reference, ← readNode reference with
      | .ok path, some node => files := files.set path node
      | _, _ => pure ()
  return files

def writeFiles (references : List String) (before after : Files) : IO Unit := do
  for reference in references do
    match before.read reference, after.read reference with
    | _, .error _ => pure ()
    | old, .ok content =>
      if old.toOption ≠ some content then
        IO.FS.writeBinFile reference ⟨content.toArray⟩
        IO.setAccessRights reference ⟨⟨true, true, false⟩, ⟨false, false, false⟩,
          ⟨false, false, false⟩⟩

def storeFile (reference : String) : String :=
  StoreDirectory.entry reference StoreDirectory.records

def readStore (reference : String) : IO Store := do
  match ← readNode (storeFile reference) with
  | some (.file content _) =>
    match Layout.store.read content with
    | .ok s => return s
    | .error e => throw (.userError (storeFile reference ++ ": " ++ e.message))
  | _ => return .empty

def writeStore (reference : String) (s : Store) : IO Unit := do
  IO.FS.createDirAll (StoreDirectory.entry reference StoreDirectory.longRecords)
  IO.FS.writeBinFile (StoreDirectory.entry reference StoreDirectory.settings)
    ⟨StoreDirectory.settingsContent.toArray⟩
  IO.FS.writeBinFile (storeFile reference) ⟨(Layout.store.encode s).toArray⟩

def candidateCount : Nat := 128

def randomOctets : IO (Octets 32) := do
  return (Octets.ofBytes? (← IO.getRandomBytes 32).data.toList).getD (Octets.zero 32)

def readDraws : IO Draws := do
  let mut draws := Draws.none
  for _ in List.range candidateCount do
    draws := ⟨.scalar (← randomOctets) :: .abscissa (← randomOctets) :: draws.shared,
      (← randomOctets) :: draws.secrets⟩
  return draws

def readEnvironment : IO Environment := do
  Invocation.variableNames.filterMapM fun name => do
    return (← IO.getEnv name).map (name, ·)

def unreachable (endpoint : String) : Except TransportFault NodeBehaviour :=
  .error (.stated ("connect " ++ endpoint ++ ": Network is unreachable (os error 101)"))

def usageText : String :=
  "Usage: " ++ Invocation.programName ++ " [OPTIONS] <COMMAND>\n\nCommands: " ++
    ", ".intercalate (Invocation.commands.map CommandSpec.name) ++ "\n"

def printReport (report : Report) : IO Unit := do
  match report with
  | .usage (.version _) | .finished .. =>
    IO.print report.output
    IO.eprint report.errors
  | .usage _ => if report.code = 0 then IO.print usageText else IO.eprint usageText

def storeReference (environment : Environment) (arguments : List String) (files : Files) :
    Option String :=
  match Invocation.ofArguments environment arguments with
  | .error _ => none
  | .ok i => (i.settings.resolve files).toOption.map (·.store)

def run (arguments : List String) : IO UInt32 := do
  let environment ← readEnvironment
  let references := candidates (arguments ++ environment.map (·.2))
  let files ← readFiles (references.flatMap withParents)
  let surroundings : Surroundings := ⟨environment, unreachable, [], "", []⟩
  let store? := storeReference environment arguments files
  let stores ← match store? with
    | none => pure []
    | some reference => do
      match ((⟨files, []⟩ : Machine).openStore reference).1 with
      | .error _ => pure []
      | .ok path => pure [(path, ← readStore reference)]
  let (report, m) := (CommandLine.run surroundings arguments (← readDraws)).run ⟨files, stores⟩
  writeFiles references files m.files
  match store?, m.stores with
  | some reference, (_, s) :: _ => writeStore reference s
  | _, _ => pure ()
  printReport report
  return report.code.toUInt32

end Program

end RedactableLedger

def main (arguments : List String) : IO UInt32 := RedactableLedger.Program.run arguments
