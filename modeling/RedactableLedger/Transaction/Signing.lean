import RedactableLedger.Key.Ecdsa
import RedactableLedger.Transaction.Basic

namespace RedactableLedger

namespace Transaction

def attach (tx : Transaction) (primary : Signature) (cosigner : Option Signature) :
    Outcome Transaction :=
  if cosigner.isSome && !tx.kind.takesCosigner then .error (.validation (.noCosigner tx.kind))
  else
    .ok { tx with
      sig1 := primary
      sig2 := if tx.kind.takesCosigner then cosigner.getD .empty else tx.sig2 }

/-- Signs an identifier with a key and perhaps a co-signer's key, and attaches the
signatures. -/
def sign (tx : Transaction) (hash : TxHash) (key : PrivateKey) (cosigner : Option PrivateKey) :
    Outcome Transaction := do
  let primary ← (Ecdsa.sign key hash).mapError Fault.crypto
  let second ← cosigner.mapM fun k => (Ecdsa.sign k hash).mapError Fault.crypto
  tx.attach primary second

end Transaction

end RedactableLedger
