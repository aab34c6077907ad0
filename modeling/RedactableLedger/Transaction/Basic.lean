import RedactableLedger.Chameleon.Hash
import RedactableLedger.Signature

namespace RedactableLedger

inductive TxBody where
  | accountCreation (issuer : Digest) (newAddress : Address) (params : ChameleonParams)
  | fundsTransfer (amount : UInt64) (txCount : UInt32) (source target : Digest)
  | config (option : UInt8) (payload : UInt64) (txCount : UInt32)
  | stake (isStaking : Bool) (account : Digest) (commitment : Bytes)
  | update (target : TxHash) (targetCheckString : CheckString) (newData : Bytes)
      (issuer : Digest)
deriving DecidableEq

def TxBody.kind : TxBody → TxKind
  | accountCreation .. => .accountCreation
  | fundsTransfer .. => .fundsTransfer
  | config .. => .config
  | stake .. => .stake
  | update .. => .update

structure Transaction where
  header : UInt8
  fee : UInt64
  data : Bytes
  checkString : Option CheckString
  sig1 : Signature
  sig2 : Signature
  body : TxBody
deriving DecidableEq

namespace Transaction

def kind (tx : Transaction) : TxKind := tx.body.kind

def isSigned (tx : Transaction) : Bool := !tx.sig1.isEmpty

def unsigned (header : UInt8) (fee : UInt64) (data : Bytes) (checkString : Option CheckString)
    (body : TxBody) : Transaction :=
  ⟨header, fee, data, checkString, .empty, .empty, body⟩

/-- Creates an account; the embedded parameters lose their trapdoor. -/
def createAccount (header : UInt8) (fee : UInt64) (issuer : Digest) (newAddress : Address)
    (params : ChameleonParams) (checkString : CheckString) (data : Bytes) :
    Outcome Transaction := do
  requirePositiveFee fee
  return unsigned header fee data (some checkString)
    (.accountCreation issuer newAddress params.sanitized)

def transferFunds (header : UInt8) (amount fee : UInt64) (txCount : UInt32)
    (source target : Digest) (checkString : CheckString) (data : Bytes) :
    Outcome Transaction := do
  requirePositiveFee fee
  if amount = 0 then throw (.validation .amountNotPositive)
  return unsigned header fee data (some checkString)
    (.fundsTransfer amount txCount source target)

def changeConfig (header option : UInt8) (payload fee : UInt64) (txCount : UInt32) :
    Outcome Transaction := do
  requirePositiveFee fee
  return unsigned header fee [] none (.config option payload txCount)

def setStaking (header : UInt8) (fee : UInt64) (isStaking : Bool) (account : Digest)
    (commitment : Bytes) : Outcome Transaction := do
  requirePositiveFee fee
  if isStaking && commitment.isEmpty then throw (.missing "Commitment")
  return unsigned header fee [] none (.stake isStaking account commitment)

def announceUpdate (header : UInt8) (fee : UInt64) (target : TxHash)
    (targetCheckString : CheckString) (newData : Bytes) (issuer : Digest)
    (checkString : CheckString) (data : Bytes) : Outcome Transaction := do
  requirePositiveFee fee
  return unsigned header fee data (some checkString)
    (.update target targetCheckString newData issuer)

end Transaction

end RedactableLedger
