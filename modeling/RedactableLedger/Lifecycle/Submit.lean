import RedactableLedger.Lifecycle.Amend

namespace RedactableLedger

def Transaction.frame (tx : Transaction) : Frame :=
  ⟨.broadcast tx.kind, Layout.transaction.encode tx⟩

namespace Ledger

def send (tx : Transaction) : Action Ledger Unit := broadcast tx.frame

def submit (hash : TxHash) : Action Ledger Transaction := do
  let tx ← Action.query fun l => l.store.load hash
  if !tx.isSigned then throw (.validation .unsigned)
  send tx
  return tx

def attachAndSubmit (hash : TxHash) (primary : Signature) (cosigner : Option Signature) :
    Action Ledger Transaction := do
  let tx ← attach hash primary cosigner
  send tx
  return tx

end Ledger

end RedactableLedger
