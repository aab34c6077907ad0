import RedactableLedger.Lifecycle.Amend
import RedactableLedger.Request

namespace RedactableLedger

def txHashOfHex (s : String) : Outcome TxHash := (decodeField 32 s "tx hash").mapError .decoding

/-- An unsigned transaction, with the parameters that it is identified under if it has a check
string. -/
structure Draft where
  tx : Transaction
  params : Option ChameleonParams
deriving DecidableEq

structure Prepared where
  hash : TxHash
  tx : Transaction
deriving DecidableEq

namespace Ledger

def require (name : String) (a : Action Workspace (Option α)) : Action Ledger α := do
  match ← inWorkspace a with
  | some x => return x
  | none => throw (.missing name)

def drawCheckString (params : ChameleonParams) : Action Ledger CheckString :=
  inWorkspace (Action.of fun w =>
    let (r, draws) := (params.newCheckString.run.run w.draws)
    (r.mapError .decoding, { w with draws }))

def stage (draft : Draft) : Action Ledger Prepared := do
  let hash ← Action.lift (draft.tx.id draft.params)
  inStore (Action.change (·.put hash draft.tx))
  return ⟨hash, draft.tx⟩

def draftAccountOf (header : UInt8) (fee : UInt64) (rootWallet : String) (address : Address)
    (params data : String) : Action Ledger Draft := do
  let issuer ← require "rootwallet" (resolvePublicKey rootWallet)
  let params := (← require "chparams" (resolveParams params)).sanitized
  let checkString ← drawCheckString params
  let tx ← Action.lift (Transaction.createAccount header fee issuer.address.digest address
    params checkString (Bytes.ofText data))
  return ⟨tx, some params⟩

def draftAccount (a : CreateAccount) : Action Ledger Draft := do
  Action.lift a.validate
  let key ← require "wallet" (resolvePublicKey a.wallet)
  draftAccountOf a.header a.fee a.rootWallet key.address a.params a.data

def draftAddAccount (a : AddAccount) : Action Ledger Draft := do
  Action.lift a.validate
  let address ← Action.lift (Address.ofHex a.address)
  draftAccountOf a.header a.fee a.rootWallet address a.params a.data

/-- The address that funds go to: a key's, or a given one if no key is named. -/
def transferTarget (a : TransferFunds) : Action Ledger Address := do
  if a.target = "" then Action.lift (Address.ofHex a.targetAddress)
  else return (← require "to" (resolvePublicKey a.target)).address

def draftTransfer (a : TransferFunds) : Action Ledger Draft := do
  Action.lift a.validate
  let source ← require "from" (resolvePublicKey a.source)
  let target ← transferTarget a
  let params ← require "chparams" (resolveParams a.params)
  let checkString ← drawCheckString params
  let tx ← Action.lift (Transaction.transferFunds a.header a.amount a.fee a.txCount
    source.address.digest target.digest checkString (Bytes.ofText a.data))
  return ⟨tx, some params⟩

/-- Drafts a change of settings; the root key is only checked to be one. -/
def draftConfig (a : ChangeConfig) : Action Ledger Draft := do
  Action.lift a.validate
  let _ ← require "rootwallet" (resolvePublicKey a.rootWallet)
  let tx ← Action.lift (Transaction.changeConfig a.header a.option a.payload a.fee a.txCount)
  return ⟨tx, none⟩

/-- The commitment to stake with: none is needed to end staking. -/
def commitmentFor (a : SetStaking) : Action Ledger Bytes :=
  if a.staking then require "Commitment" (resolveCommitment a.commitment) else pure []

def draftStaking (a : SetStaking) : Action Ledger Draft := do
  Action.lift a.validate
  let account ← require "wallet" (resolvePublicKey a.wallet)
  let commitment ← commitmentFor a
  let tx ← Action.lift (Transaction.setStaking a.header a.fee a.staking account.address.digest
    commitment)
  return ⟨tx, none⟩

/-- Drafts the announcement of an update, for which the target is redacted at once. -/
def draftUpdate (a : UpdateData) : Action Ledger Draft := do
  Action.lift a.validate
  let target ← Action.lift (txHashOfHex (Text.trim a.txHash))
  let issuer ← require "txIssuer" (resolvePublicKey a.issuer)
  let params ← require "ch_params" (resolveParams a.params)
  let newData := Bytes.ofText a.newData
  -- from here on the target is redacted, whatever becomes of the announcement
  let targetCheckString ← redact target newData params
  let checkString ← drawCheckString params
  let tx ← Action.lift
      (Transaction.announceUpdate a.header a.fee target targetCheckString newData
    issuer.address.digest checkString (Bytes.ofText a.data))
  return ⟨tx, some params⟩

def draftDelete (a : DeleteData) : Action Ledger Draft := draftUpdate a.asUpdate

end Ledger

inductive Preparation where
  | createAccount (a : CreateAccount)
  | addAccount (a : AddAccount)
  | transferFunds (a : TransferFunds)
  | changeConfig (a : ChangeConfig)
  | setStaking (a : SetStaking)
  | updateData (a : UpdateData)
  | deleteData (a : DeleteData)
deriving DecidableEq

def Preparation.draft : Preparation → Action Ledger Draft
  | createAccount a => Ledger.draftAccount a
  | addAccount a => Ledger.draftAddAccount a
  | transferFunds a => Ledger.draftTransfer a
  | changeConfig a => Ledger.draftConfig a
  | setStaking a => Ledger.draftStaking a
  | updateData a => Ledger.draftUpdate a
  | deleteData a => Ledger.draftDelete a

def Preparation.run (request : Preparation) : Action Ledger Prepared :=
  request.draft >>= Ledger.stage

end RedactableLedger
