import RedactableLedger.Action
import RedactableLedger.Chameleon.Params
import RedactableLedger.Files
import RedactableLedger.Key.Basic
import RedactableLedger.Text.Blank

namespace RedactableLedger

structure Workspace where
  files : Files
  draws : Draws
deriving DecidableEq

namespace Workspace

def empty : Workspace := ⟨.empty, .none⟩

instance : Inhabited Workspace := ⟨empty⟩

def draw (a : StateM Draws α) : Action Workspace α :=
  Action.onState draws (fun d w => { w with draws := d }) a

def fileFault (reference : String) (fault : FileFault) : Fault :=
  .resolution (.file reference fault)

def readFields (reference : String) : Action Workspace (List String) :=
  Action.query fun w =>
    match w.files.readText reference with
    | .ok text => .ok (Text.fields text)
    | .error e => .error (fileFault reference (.access e))

def fieldLines (fields : List String) : String := "\n".intercalate fields ++ "\n"

def writeFields (reference : String) (fields : List String) : Action Workspace Unit :=
  Action.of fun w =>
    match w.files.write reference (Bytes.ofText (fieldLines fields))
      (some Files.secretMode) with
    | .ok files => (.ok (), { w with files := files })
    | .error e => (.error (fileFault reference (.access e)), w)

def inFile (reference : String) (r : Except Malformation α) : Outcome α :=
  r.mapError fun m => fileFault reference (.malformed m)

def privateKeyInFile (reference : String) : Action Workspace PrivateKey := do
  match ← readFields reference with
  | [x, y, d] => Action.lift (inFile reference (PrivateKey.ofFields x y d))
  | fields => throw (fileFault reference (.privateKeyFields fields.length))

def publicKeyInFile (reference : String) : Action Workspace PublicKey := do
  match ← readFields reference with
  | [x, y] => Action.lift (inFile reference (PublicKey.ofFields x y))
  | [x, y, _] => Action.lift (inFile reference (PublicKey.ofFields x y))
  | fields => throw (fileFault reference (.publicKeyFields fields.length))

def paramsInFile (reference : String) : Action Workspace ChameleonParams := do
  let fields ← readFields reference
  Action.lift (inFile reference (ChameleonParams.ofFields fields))

def createKey (reference : String) : Action Workspace PrivateKey := do
  let key ← draw PrivateKey.generate
  writeFields reference key.toFields
  return key

def createParams (reference : String) : Action Workspace ChameleonParams := do
  let params ← draw ChameleonParams.generate
  writeFields reference params.toFields
  return params

def hasFile (reference : String) : Action Workspace Bool :=
  Action.query fun w => .ok (w.files.contains reference)

end Workspace

def fieldLength : Nat := 64

def fileMarker : List Char := ".txt".toList

def isFileReference (argument : String) : Bool := Text.occursIn fileMarker argument.toList

def pieces (length : Nat) : Nat → List Char → List String
  | 0, _ => []
  | n + 1, cs => String.ofList (cs.take length) :: pieces length n (cs.drop length)

/-- The fields of an argument. A single ASCII field as long as one of the given numbers of
fields holds that many fields. -/
def splitFields (counts : List Nat) (argument : String) : List String :=
  match Text.fields argument with
  | [single] =>
    let cs := single.toList
    if cs.all (·.toNat < 128) then
      match counts.find? (fun n => cs.length == n * fieldLength) with
      | some n => pieces fieldLength n cs
      | none => [single]
    else [single]
  | fields => fields

open Workspace

/-- Resolves a trimmed argument: nothing if it is blank, from a file, or from the fields in
it. -/
def resolveWith (fromFile : String → Action Workspace α)
    (fromText : String → Except Malformation α) (argument : String) :
    Action Workspace (Option α) :=
  let trimmed := Text.trim argument
  if trimmed = "" then return none
  else if isFileReference trimmed then some <$> fromFile trimmed
  else some <$> Action.lift ((fromText trimmed).mapError .decoding)

def publicKeyOfText (text : String) : Except Malformation PublicKey :=
  match splitFields [2, 3] text with
  | [x, y] => PublicKey.ofFields x y
  | [x, y, _] => PublicKey.ofFields x y
  | fields => .error (.publicKeyFields fields.length)

def privateKeyOfText (text : String) : Except Malformation PrivateKey :=
  match splitFields [3] text with
  | [x, y, d] => PrivateKey.ofFields x y d
  | fields => .error (.privateKeyFields fields.length)

def paramsOfText (text : String) : Except Malformation ChameleonParams :=
  ChameleonParams.ofFields (splitFields [4, 5] text)

/-- The public key that an argument denotes; a missing file is created with a whole key. -/
def resolvePublicKey (argument : String) : Action Workspace (Option PublicKey) :=
  resolveWith (fun reference => do
    if ← hasFile reference then publicKeyInFile reference
    else return (← createKey reference).publicKey) publicKeyOfText argument

/-- The private key that an argument denotes; a file must exist. -/
def resolvePrivateKey (argument : String) : Action Workspace (Option PrivateKey) :=
  resolveWith privateKeyInFile privateKeyOfText argument

/-- The parameters that an argument denotes; a missing file is created with a trapdoor. -/
def resolveParams (argument : String) : Action Workspace (Option ChameleonParams) :=
  resolveWith (fun reference => do
    if ← hasFile reference then paramsInFile reference
    else createParams reference) paramsOfText argument

/-- The commitment that an argument denotes: the address of a public key. -/
def resolveCommitment (argument : String) : Action Workspace (Option Bytes) := do
  return (← resolvePublicKey argument).map (·.address.octets.bytes)

end RedactableLedger
