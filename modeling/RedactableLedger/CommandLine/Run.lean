import RedactableLedger.CommandLine.Invocation
import RedactableLedger.Config
import RedactableLedger.LogFilter
import RedactableLedger.Network.Endpoint
import RedactableLedger.Rest.Server
import RedactableLedger.Store.Directory

namespace RedactableLedger

namespace CommandLine

structure Surroundings where
  environment : Environment
  network : String → Except TransportFault NodeBehaviour
  busyPorts : List UInt16
  now : String
  /-- The requests that arrive at the front end before it is told to stop. -/
  arrivals : List HttpRequest

/-- What runs change: the files and the stores, each at the path of its directory. -/
structure Machine where
  files : Files
  stores : List (Path × Store)
deriving DecidableEq

namespace Machine

def storeAt (m : Machine) (path : Path) : Store := (m.stores.lookup path).getD .empty

/-- Opens the store that a reference names, making its directory. What was made stays if
something later cannot be made. -/
def openStore (m : Machine) (reference : String) : Except StoreDirectory.Fault Path × Machine :=
  let (opened, files) := StoreDirectory.openAt m.files reference
  (opened, { m with files })

/-- The store that a reference names, if one was opened there and can be opened again. -/
def store? (m : Machine) (reference : String) : Option Store :=
  (m.openStore reference).1.toOption.bind (m.stores.lookup ·)

def close (m : Machine) (path : Path) (files : Files) (store : Store) : Machine where
  files := files
  stores := (path, store) :: m.stores.filter (·.1 ≠ path)

end Machine

inductive RunFault where
  | fault (cause : Fault)
  | config (reference : String) (cause : Fault)
  | store (reference : String) (cause : StoreDirectory.Fault)
  | noSigningKey
  | noSetting
  | submission (hash : TxHash) (cause : Fault)
  | portTaken (port : UInt16)
deriving DecidableEq

namespace RunFault

def headline : RunFault → String
  | fault cause => cause.message
  | config reference _ => "failed to load config " ++ reference
  | store reference _ => "failed to open database at " ++ reference
  | noSigningKey => "--sign-with resolved to no key"
  | noSetting => "no configuration option given; use one of " ++
      ", ".intercalate (ConfigOption.all.map fun o => "--" ++ Invocation.optionOf o)
  | submission hash _ => "failed to submit " ++ hash.toHex
  | portTaken port => "failed to bind REST listener on 0.0.0.0:" ++ toString port.toNat

def causes : RunFault → List String
  | config _ cause | submission _ cause => [cause.message]
  | store _ cause => ["sled error: " ++ cause.message, cause.message]
  | portTaken _ => ["Address already in use (os error 98)"]
  | _ => []

def indented (first margin : String) (cause : String) : String :=
  first ++ ("\n" ++ margin).intercalate (cause.splitOn "\n")

def causeLines : List String → List String
  | [cause] => [indented "    " "    " cause]
  | causes => causes.zipIdx.map fun (cause, i) =>
    indented ("    " ++ toString i ++ ": ") "       " cause

def report (e : RunFault) : String :=
  let first := "Error: " ++ e.headline ++ "\n"
  if e.causes.isEmpty then first
  else first ++ "\nCaused by:\n" ++ String.join ((causeLines e.causes).map (· ++ "\n"))

end RunFault

inductive Report where
  | usage (fault : UsageFault)
  /-- It is carried out: the warnings before it, what was printed, and the failure if there was
  one. -/
  | finished (warnings printed : List String) (failure : Option RunFault)
deriving DecidableEq

namespace Report

def code : Report → UInt8
  | usage fault => fault.code
  | finished _ _ none => 0
  | finished _ _ (some _) => 1

def ofLines (lines : List String) : String := String.join (lines.map (· ++ "\n"))

def output : Report → String
  | usage (.version command) => ofLines [Invocation.fullName command ++ " " ++ Server.version]
  | usage _ => ""
  | finished _ printed _ => ofLines printed

def errors : Report → String
  | usage _ => ""
  | finished warnings _ failure => ofLines warnings ++ (failure.map RunFault.report).getD ""

end Report

/-- A command under way: the client that it works with, and the lines that it has printed. -/
structure Session where
  client : Client
  printed : List String

abbrev Script (α : Type) := ExceptT RunFault (StateM Session) α

namespace Script

def print (line : String) : Script Unit :=
  modify fun s => { s with printed := s.printed ++ [line] }

/-- Runs an action of the client, with what its failure is a failure of. -/
def attempt (a : Action Client α) (wrap : Fault → RunFault := .fault) : Script α := do
  let s ← get
  let (r, client) := a.exec s.client
  set { s with client }
  match r with
  | .ok x => return x
  | .error e => throw (wrap e)

def privateKey (argument : String) : Script (Option PrivateKey) :=
  attempt (Client.onLedger (Ledger.inWorkspace (resolvePrivateKey argument)))

def submit (hash : TxHash) : Script Unit := do
  let _ ← attempt (Client.onLedger (Ledger.submit hash)) (.submission hash)

def signAndSubmit (hash : TxHash) (signWith cosigner : String) : Script Unit := do
  match ← privateKey signWith with
  | none => throw .noSigningKey
  | some key =>
    let second ← privateKey cosigner
    let _ ← attempt (Client.onLedger (Ledger.sign hash key second))
    submit hash

/-- Stages one transaction, signs and submits it if a key is given, and prints its hash. -/
def stageOne (request : Preparation) (signWith : Option String) (cosigner : String) :
    Script Unit := do
  let p ← attempt (Client.onLedger request.run)
  match signWith with
  | none => pure ()
  | some key => signAndSubmit p.hash key cosigner
  print p.hash.toHex

def stageAll (signWith : Option String) (cosigner : String) : List Preparation → Script Unit
  | [] => pure ()
  | request :: rest => do
    stageOne request signWith cosigner
    stageAll signWith cosigner rest

def stage (request : StagingRequest) (signWith : Option String) : Script Unit :=
  if request.preparations.isEmpty then throw .noSetting
  else stageAll signWith request.cosigner request.preparations

def confirmation : String := "Tx successfully sent to network."

def sign (hash signature : String) (cosignature : Option String) : Script Unit := do
  let (hash, primary, second) ← attempt (Action.lift do
    let hash ← txHashOfHex (Text.trim hash)
    let primary ← Signature.ofHex (Text.trim signature)
    let second ← cosignature.mapM fun s => Signature.ofHex (Text.trim s)
    return (hash, primary, second))
  let _ ← attempt (Client.onLedger (Ledger.attachAndSubmit hash primary second))
      (.submission hash)
  print confirmation

def resubmit (hash : String) : Script Unit := do
  let hash ← attempt (Action.lift (txHashOfHex (Text.trim hash)))
  submit hash
  print confirmation

def accountJson (v : AccountView) : Json :=
  .object [("address", .string v.account.address.toHex),
    ("balance", .integer v.account.balance.toNat), ("is_root", .bool v.account.isRoot),
    ("is_staking", .bool v.account.isStaking),
    ("recent_txs", .array (v.recent.map fun h => .string h.toHex)),
    ("tx_count", .integer v.account.txCount.toNat)]

def check (request : CheckAccount) : Script Unit := do
  match ← attempt (Client.checkAccount request) with
  | none => print "Account does not exist."
  | some view => print ((accountJson view).pretty 0)

/-- Serves the REST front end until it is told to stop; port zero stands for any that is
free. -/
def serve (surroundings : Surroundings) (port : UInt16) : Script Unit := do
  if port ≠ 0 ∧ surroundings.busyPorts.contains port then throw (.portTaken port)
  modify fun s =>
    let (_, server) :=
      (Server.handleAll surroundings.now surroundings.arrivals).run ⟨s.client, .zero⟩
    { s with client := server.client }

end Script

def Command.run (surroundings : Surroundings) (config : Config) : Command → Script Unit
  | stage request signWith => Script.stage request signWith
  | check request => Script.check request
  | sign hash signature cosignature => Script.sign hash signature cosignature
  | submit hash => Script.resubmit hash
  | rest port => Script.serve surroundings (port.getD config.restPort)

/-- The settings of a run: defaults, a file over them, and the command line over both. -/
def Settings.resolve (s : Settings) (files : Files) : Except RunFault Config := do
  let base ← match s.config with
    | none => pure {}
    | some reference => (Config.load files reference).mapError (.config reference)
  return { base with
    store := s.store.getD base.store
    bootstrap := s.bootstrap.getD base.bootstrap }

def Surroundings.reach (s : Surroundings) (endpoint : String) :
    Except TransportFault NodeBehaviour :=
  match Endpoint.fault? endpoint with
  | some fault => .error fault
  | none => s.network endpoint

/-- The client of a run. Time limits end with a full millisecond, so that none is over at
once. -/
def Surroundings.client (s : Surroundings) (config : Config) (workspace : Workspace)
    (store : Store) :
    Client :=
  let (fault, node) := match s.reach config.bootstrap with
    | .ok node => (none, node)
    | .error e => (some e, NodeBehaviour.unreachable e)
  { ledger := ⟨workspace, store, .empty, .fresh config.bootstrap fault⟩
    bridge := .fresh
    node := node
    timeout := max 1 config.requestTimeout.toNat
    source := none }

def failure? : Except RunFault Unit → Option RunFault
  | .ok () => none
  | .error e => some e

/-- The warnings about the filter of log lines: that of the environment if it is well formed,
and else that of the settings. -/
def Settings.warnings (s : Settings) (environment : Environment) : List String :=
  if (environment.lookup Invocation.filterVariable).any LogFilter.isWellFormed then []
  else LogFilter.warnings s.logLevel

def Invocation.run (i : Invocation) (s : Surroundings) (draws : Draws) :
    StateM Machine Report :=
  fun m =>
    let finished := Report.finished (i.settings.warnings s.environment)
    match i.settings.resolve m.files with
    | .error e => (finished [] (some e), m)
    | .ok config =>
      match m.openStore config.store with
      | (.error e, m) => (finished [] (some (.store config.store e)), m)
      | (.ok path, m) =>
        let client := s.client config ⟨m.files, draws⟩ (m.storeAt path)
        let (r, session) := (i.command.run s config).run.run ⟨client, []⟩
        let l := session.client.ledger
        (finished session.printed (failure? r), m.close path l.workspace.files l.store)

def run (s : Surroundings) (arguments : List String) (draws : Draws) : StateM Machine Report :=
  match Invocation.ofArguments s.environment arguments with
  | .error fault => pure (.usage fault)
  | .ok i => i.run s draws

end CommandLine

end RedactableLedger
