import RedactableLedger.Lifecycle.Ledger
import RedactableLedger.Transaction.Identity
import RedactableLedger.Transaction.Signing

namespace RedactableLedger

/-- Replaces the data of a transaction staged under a hash, with the check string that keeps the
hash. The parameters must have the trapdoor and must be those that the hash was made with. -/
def Transaction.redact (tx : Transaction) (hash : TxHash) (data : Bytes)
    (params : ChameleonParams) :
    Outcome (CheckString × Transaction) :=
  match tx.kind.isRedactable, tx.checkString with
  | true, some old => do
    if (← tx.id (some params)) ≠ hash then throw (.validation .foreignParameters)
    if !params.hasTrapdoor then throw (.crypto .redactionNeedsTrapdoor)
    let cleared := { tx with data }
    let cs ← params.collide old tx.contentHash cleared.contentHash
    let redacted := { cleared with checkString := some cs }
    -- nothing is put back under a hash that it does not have, even if the collision went wrong
    if (← redacted.id (some params)) ≠ hash then throw (.crypto .collisionMismatch)
    return (cs, redacted)
  | _, _ => .error (.validation (.notRedactable tx.kind))

def Store.load (s : Store) (hash : TxHash) : Outcome Transaction :=
  match s.get hash with
  | .error e => .error (.storage e)
  | .ok none => .error (.notFound hash)
  | .ok (some tx) => .ok tx

/-- Replaces the record of a hash by what a function makes of it, if it makes something. -/
def Store.amend (hash : TxHash) (f : Transaction → Outcome (α × Transaction)) :
    Action Store α :=
  Action.of fun s =>
    match s.load hash >>= f with
    | .error e => (.error e, s)
    | .ok (a, tx) => (.ok a, s.put hash tx)

inductive Amendment where
  | attach (primary : Signature) (cosigner : Option Signature)
  | sign (key : PrivateKey) (cosigner : Option PrivateKey)
  | redact (data : Bytes) (params : ChameleonParams)
deriving DecidableEq

namespace Amendment

/-- What an amendment hands back: the signed record, or the check string of the redacted one. -/
inductive Answer where
  | record (tx : Transaction)
  | checkString (cs : CheckString)
deriving DecidableEq

def apply (hash : TxHash) (tx : Transaction) : Amendment → Outcome (Answer × Transaction)
  | attach primary cosigner => do
    let signed ← tx.attach primary cosigner
    return (.record signed, signed)
  | sign key cosigner => do
    let signed ← tx.sign hash key cosigner
    return (.record signed, signed)
  | redact data params => do
    let (cs, redacted) ← tx.redact hash data params
    return (.checkString cs, redacted)

end Amendment

namespace Ledger

def amend (hash : TxHash) (f : Transaction → Outcome (α × Transaction)) : Action Ledger α :=
  locked hash (inStore (Store.amend hash f))

def attach (hash : TxHash) (primary : Signature) (cosigner : Option Signature) :
    Action Ledger Transaction :=
  amend hash fun tx => do
    let signed ← tx.attach primary cosigner
    return (signed, signed)

def sign (hash : TxHash) (key : PrivateKey) (cosigner : Option PrivateKey) :
    Action Ledger Transaction :=
  amend hash fun tx => do
    let signed ← tx.sign hash key cosigner
    return (signed, signed)

def redact (hash : TxHash) (data : Bytes) (params : ChameleonParams) :
    Action Ledger CheckString :=
  amend hash fun tx => tx.redact hash data params

def delete (hash : TxHash) (params : ChameleonParams) : Action Ledger CheckString :=
  redact hash [] params

end Ledger

end RedactableLedger
