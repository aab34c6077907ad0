import RedactableLedger.Files

namespace RedactableLedger

namespace StoreDirectory

inductive Fault where
  | access (cause : AccessFault)
  | badSettings
  | oldSettings
deriving DecidableEq, Repr

def Fault.message : Fault → String
  | access cause => "IO error: " ++ cause.message
  | badSettings => "Read corrupted data at file offset None backtrace ()"
  | oldSettings =>
    "Unsupported: failed to open database that may have been created using a " ++
      "sled version earlier than 0.29"

def entry (reference name : String) : String :=
  if reference = "" ∨ Files.namesDirectory reference then reference ++ name
  else reference ++ "/" ++ name

def longRecords : String := "blobs"

def settings : String := "conf"

def records : String := "db"

def settingLines : String := "segment_size: 524288\nuse_compression: false\nversion: 0.34\n"

def checksum : Bytes := [0x76, 0x19, 0x51, 0xC1]

def settingsContent : Bytes := Bytes.ofText settingLines ++ checksum

def minSettings : Nat := 8

/-- What the file of records starts with: the inverted number of the first record. -/
def recordsContent : Bytes := List.replicate 7 0xFF ++ [0x7F]

def lines (bytes : Bytes) : List Bytes :=
  bytes.foldr (fun b lines =>
    if b = 10 then [] :: lines
    else
      match lines with
      | [] => [[b]]
      | line :: rest => (b :: line) :: rest) []

/-- The fault of a line, which gives a value after a colon and a blank. -/
def lineFault? (line : Bytes) : Option Fault :=
  match line.toText? with
  | none => some .oldSettings
  | some text => if (text.splitOn ": ").length < 2 then some .badSettings else none

/-- The fault of settings without their checksum: that of their first bad line, if there is
one. -/
def settingsFault? (bytes : Bytes) : Option Fault :=
  ((lines bytes).findSome? lineFault?).or
    (if bytes = Bytes.ofText settingLines then none else some .badSettings)

/-- Writes the file of settings unless it has those of a store; their checksum does not
count. -/
def openSettings (files : Files) (reference : String) : Except Fault Files :=
  let name := entry reference settings
  let fresh := (files.write name settingsContent none).mapError .access
  match files.read name with
  | .error .notFound => fresh
  | .error e => .error (.access e)
  | .ok content =>
    if content.length ≤ minSettings then fresh
    else
      match settingsFault? (content.take (content.length - checksum.length)) with
      | none => .ok files
      | some e => .error e

/-- Opens the file of records, and lists the long records if there were records already. -/
def openRecords (files : Files) (reference : String) : Except Fault Files :=
  let name := entry reference records
  match files.write name recordsContent none with
  | .error e => .error (.access e)
  | .ok opened =>
    if (files.read name).toOption = some recordsContent then
      match files.read (entry reference longRecords) with
      | .error .isDirectory => .ok opened
      | _ => .error (.access .notDirectory)
    else .ok opened

/-- Opens the directory that a reference names: its path. What was made stays if something later
cannot be made. -/
def openAt (files : Files) (reference : String) : Except Fault Path × Files :=
  match files.makeDirectory (entry reference longRecords) with
  | (.error e, files) => (.error (.access e), files)
  | (.ok (), files) =>
    match openSettings files reference with
    | .error e => (.error e, files)
    | .ok files =>
      match openRecords files reference with
      | .error e => (.error e, files)
      | .ok files =>
        ((files.follow (files.start reference) (Files.names reference)).mapError .access, files)

end StoreDirectory

end RedactableLedger
