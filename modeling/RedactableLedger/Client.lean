import RedactableLedger.Lifecycle.Operation
import RedactableLedger.Network.Exchange

namespace RedactableLedger

abbrev StateSource := Address → Outcome AccountState

structure Client where
  ledger : Ledger
  bridge : Bridge
  node : NodeBehaviour
  timeout : Nat
  source : Option StateSource

namespace Client

def onLedger (a : Action Ledger α) : Action Client α :=
  Action.on Client.ledger (fun l c => { c with ledger := l }) a

def afterSending (c : Client) (frames : List Frame) (bridge : Bridge) : Client :=
  let link := frames.foldl (fun link frame => link.hand frame true) c.ledger.link
  { c with bridge, ledger := { c.ledger with link } }

/-- Asks the node several things at the same time, perhaps with a shutdown after a while. -/
def askAll (queries : List AccountQuery) (shutdownAfter : Option Nat) (c : Client) :
    List AccountAnswer × Client :=
  let (answers, frames, bridge) := c.bridge.exchange c.node c.timeout shutdownAfter queries
  (answers, c.afterSending frames bridge)

def ask (query : AccountQuery) : Action Client (Option Account) := Action.of fun c =>
  let (answer, frames, bridge) := c.bridge.exchangeOne c.node c.timeout query
  (answer, c.afterSending frames bridge)

/-- The client after a while in which what was left in the queue is sent. -/
def rest (c : Client) : Client :=
  let (frames, bridge) := c.bridge.clear
  c.afterSending frames bridge

def shutdown (c : Client) : Client :=
  { c with bridge := (c.bridge.run c.timeout [.shutdown, .stop]).1 }

/-- The view of an account that the node reports, with the numbers of the state source. -/
def viewOf (source : Option StateSource) (address : Address) (found : Account) (isRoot : Bool) :
    Outcome AccountView :=
  let reported : Account :=
    ⟨address, found.balance, found.txCount, true, isRoot, found.isStaking⟩
  match source with
  | none => .ok ⟨reported, []⟩
  | some source => do
    let state ← source address
    return ⟨{ reported with balance := state.balance, txCount := state.txCount }, state.recent⟩

def getAccount (address : Address) : Action Client (Option AccountView) := do
  match ← ask ⟨false, address.digest⟩ with
  | none => return none
  | some found =>
    let root ← ask ⟨true, address.digest⟩
    some <$> Action.query fun c => viewOf c.source address found root.isSome

/-- The address that an account is looked up by: a wallet's, or a given one if no wallet is
named. -/
def checkedAddress (a : CheckAccount) : Action Ledger Address := do
  if a.wallet = "" then Action.lift (Address.ofHex a.address)
  else return (← Ledger.require "wallet" (resolvePublicKey a.wallet)).address

def checkAccount (a : CheckAccount) : Action Client (Option AccountView) := do
  Action.lift a.validate
  getAccount (← onLedger (checkedAddress a))

end Client

end RedactableLedger
