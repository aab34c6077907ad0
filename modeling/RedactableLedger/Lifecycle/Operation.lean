import RedactableLedger.Lifecycle.Prepare
import RedactableLedger.Lifecycle.Submit

namespace RedactableLedger

inductive Operation where
  | prepare (request : Preparation)
  | attach (hash : TxHash) (primary : Signature) (cosigner : Option Signature)
  | sign (hash : TxHash) (key : PrivateKey) (cosigner : Option PrivateKey)
  | submit (hash : TxHash)
  | attachAndSubmit (hash : TxHash) (primary : Signature) (cosigner : Option Signature)
  | redact (hash : TxHash) (data : Bytes) (params : ChameleonParams)
  | delete (hash : TxHash) (params : ChameleonParams)
deriving DecidableEq

namespace Operation

inductive Answer where
  | prepared (p : Prepared)
  | record (tx : Transaction)
  | checkString (cs : CheckString)
deriving DecidableEq

def run : Operation → Action Ledger Answer
  | prepare request => .prepared <$> request.run
  | attach hash primary cosigner => .record <$> Ledger.attach hash primary cosigner
  | sign hash key cosigner => .record <$> Ledger.sign hash key cosigner
  | submit hash => .record <$> Ledger.submit hash
  | attachAndSubmit hash primary cosigner =>
    .record <$> Ledger.attachAndSubmit hash primary cosigner
  | redact hash data params => .checkString <$> Ledger.redact hash data params
  | delete hash params => .checkString <$> Ledger.delete hash params

end Operation

/-- What happens at the outside of a ledger: an operation is carried out, randomness is
supplied, or broadcasts start to fail or to succeed. -/
inductive Occurrence where
  | operation (op : Operation)
  | supply (draws : Draws)
  | linkFault (fault : Option TransportFault)
deriving DecidableEq

namespace Ledger

def after (l : Ledger) : Occurrence → Ledger
  | .operation op => (op.run.exec l).2
  | .supply draws => { l with workspace := { l.workspace with draws } }
  | .linkFault fault => { l with link := { l.link with fault } }

def afterAll (l : Ledger) (os : List Occurrence) : Ledger := os.foldl after l

end Ledger

end RedactableLedger
