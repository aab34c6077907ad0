import RedactableLedger.CommandLine.Reader
import RedactableLedger.Fee
import RedactableLedger.Lifecycle.Prepare
import RedactableLedger.LogFormat

namespace RedactableLedger

namespace CommandLine

structure Settings where
  config : Option String
  store : Option String
  bootstrap : Option String
  logLevel : String
  logFormat : LogFormat
deriving DecidableEq, Repr

inductive StagingRequest where
  | single (request : Preparation)
  /-- One change for each setting of the network that is given, in the order of the settings. -/
  | changes (requests : List ChangeConfig)
deriving DecidableEq

namespace StagingRequest

def preparations : StagingRequest → List Preparation
  | single request => [request]
  | changes requests => requests.map .changeConfig

def cosigner : StagingRequest → String
  | single (.transferFunds a) => a.multisig
  | _ => ""

end StagingRequest

inductive Command where
  /-- Stages transactions; with a key, also signs and submits each of them. -/
  | stage (request : StagingRequest) (signWith : Option String)
  | check (request : CheckAccount)
  | sign (hash signature : String) (cosignature : Option String)
  | submit (hash : String)
  | rest (port : Option UInt16)
deriving DecidableEq

structure Invocation where
  settings : Settings
  command : Command
deriving DecidableEq

namespace Invocation

def defaultLogLevel : String := "chameleon_client=info,chameleon_protocol=info"

def everywhere : List OptionSpec :=
  [{ name := "config", letter := some 'c', kind := .path, fallback := some "CHAMELEON_CONFIG" },
    { name := "db-path", kind := .path, fallback := some "CHAMELEON_DB_PATH" },
    { name := "bootstrap", fallback := some "CHAMELEON_BOOTSTRAP" },
    { name := "log-level", fallback := some "CHAMELEON_LOG_LEVEL" },
    { name := "log-format", kind := .word (LogFormat.all.map LogFormat.name),
      fallback := some "CHAMELEON_LOG_FORMAT" }]

def staging : List OptionSpec :=
  [.optional "header" .uint8, .optional "fee" .uint64, .optional "sign-with"]

def optionOf : ConfigOption → String
  | .blockSize => "set-block-size"
  | .difficultyInterval => "set-difficulty-interval"
  | .minimumFee => "set-minimum-fee"
  | .blockInterval => "set-block-interval"
  | .blockReward => "set-block-reward"

def stakingOptions : List OptionSpec :=
  staging ++ [.required "wallet", .optional "commitment"]

def redaction : List OptionSpec :=
  [.required "tx-hash", .required "tx-issuer", .required "chparams", .optional "data"]

def accountCommands : List CommandSpec :=
  [.leaf "create" (staging ++
      [.required "root-wallet", .required "wallet", .required "chparams", .optional "data"]),
    .leaf "add" (staging ++
      [.required "root-wallet", .required "address", .required "chparams", .optional "data"]),
    .leaf "check" [.optional "address", .optional "wallet"]]

def restOptions : List OptionSpec :=
  [{ name := "port", kind := .uint16, fallback := some "CHAMELEON_REST_PORT" }]

def filterVariable : String := "RUST_LOG"

def variableNames : List String :=
  filterVariable :: (everywhere ++ restOptions).filterMap (·.fallback)

def commands : List CommandSpec :=
  [.group "account" accountCommands,
    .leaf "funds" (staging ++
      [.required "from", .optional "to", .optional "to-address", .optional "multisig",
        .required "chparams", .required "amount" .uint64, .optional "tx-count" .uint32,
        .optional "data"]),
    .leaf "network" (staging ++ [.optional "tx-count" .uint32, .required "root-wallet"] ++
      ConfigOption.all.map fun o => .optional (optionOf o) .uint64),
    .group "staking" [.leaf "enable" stakingOptions, .leaf "disable" stakingOptions],
    .leaf "update" (staging ++ redaction ++ [.required "update-data"]),
    .leaf "delete" (staging ++ redaction),
    .leaf "sign" [.required "hash", .required "signature", .optional "cosignature"],
    .leaf "submit" [.required "hash"],
    .leaf "rest" restOptions]

def programName : String := "chameleon-client"

def fullName (command : List String) : String := "-".intercalate (programName :: command)

def grammar : Grammar := ⟨everywhere, .group "client" commands⟩

def header (r : Reading) : UInt8 := UInt8.ofNat (r.number "header" 0)

def fee (r : Reading) : UInt64 := Fee.coerce (UInt64.ofNat (r.number "fee" Fee.minimum.toNat))

def txCount (r : Reading) : UInt32 := UInt32.ofNat (r.number "tx-count" 0)

def createAccount (r : Reading) : CreateAccount :=
  ⟨header r, fee r, r.text "root-wallet", r.text "wallet", r.text "chparams", r.text "data"⟩

def addAccount (r : Reading) : AddAccount :=
  ⟨header r, fee r, r.text "root-wallet", r.text "address", r.text "chparams", r.text "data"⟩

def transferFunds (r : Reading) : TransferFunds :=
  ⟨header r, r.text "from", r.text "to", r.text "to-address", r.text "multisig",
    r.text "chparams", UInt64.ofNat (r.number "amount" 0), fee r, txCount r, r.text "data"⟩

def changeConfigs (r : Reading) : List ChangeConfig :=
  ConfigOption.all.filterMap fun o =>
    (Reading.number? (r.own? (optionOf o))).map fun n =>
      ⟨header r, fee r, txCount r, r.text "root-wallet", o.id, UInt64.ofNat n⟩

def setStaking (r : Reading) (staking : Bool) : SetStaking :=
  ⟨header r, fee r, r.text "wallet", r.text "commitment", staking⟩

def updateData (r : Reading) : UpdateData :=
  ⟨header r, fee r, r.text "tx-hash", r.text "tx-issuer", r.text "chparams",
    r.text "update-data", r.text "data"⟩

def deleteData (r : Reading) : DeleteData :=
  ⟨header r, fee r, r.text "tx-hash", r.text "tx-issuer", r.text "chparams", r.text "data"⟩

def stageOne (r : Reading) (request : Preparation) : Command :=
  .stage (.single request) (Reading.text? (r.own? "sign-with"))

/-- The command that was read; a path of names that leads to none counts as incomplete. -/
def commandOf (r : Reading) : Except UsageFault Command :=
  match r.path with
  | ["account", "create"] => .ok (stageOne r (.createAccount (createAccount r)))
  | ["account", "add"] => .ok (stageOne r (.addAccount (addAccount r)))
  | ["account", "check"] => .ok (.check ⟨r.text "address", r.text "wallet"⟩)
  | ["funds"] => .ok (stageOne r (.transferFunds (transferFunds r)))
  | ["network"] =>
    .ok (.stage (.changes (changeConfigs r)) (Reading.text? (r.own? "sign-with")))
  | ["staking", "enable"] => .ok (stageOne r (.setStaking (setStaking r true)))
  | ["staking", "disable"] => .ok (stageOne r (.setStaking (setStaking r false)))
  | ["update"] => .ok (stageOne r (.updateData (updateData r)))
  | ["delete"] => .ok (stageOne r (.deleteData (deleteData r)))
  | ["sign"] =>
    .ok (.sign (r.text "hash") (r.text "signature") (Reading.text? (r.own? "cosignature")))
  | ["submit"] => .ok (.submit (r.text "hash"))
  | ["rest"] => .ok (.rest ((Reading.number? (r.own? "port")).map UInt16.ofNat))
  | _ => .error .missingCommand

def settingsOf (r : Reading) : Settings where
  config := Reading.text? (r.everywhere? "config")
  store := Reading.text? (r.everywhere? "db-path")
  bootstrap := Reading.text? (r.everywhere? "bootstrap")
  logLevel := (Reading.text? (r.everywhere? "log-level")).getD defaultLogLevel
  logFormat :=
    ((Reading.text? (r.everywhere? "log-format")).bind LogFormat.ofName?).getD .pretty

def ofArguments (environment : Environment) (arguments : List String) :
    Except UsageFault Invocation := do
  let r ← Reading.ofArguments grammar environment arguments
  return ⟨settingsOf r, ← commandOf r⟩

end Invocation

end CommandLine

end RedactableLedger
