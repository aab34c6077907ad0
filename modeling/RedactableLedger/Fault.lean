import RedactableLedger.Text.Hex
import RedactableLedger.Text.Quoted
import RedactableLedger.Curve.Bn254
import RedactableLedger.Transaction.Kind

namespace RedactableLedger

abbrev Digest := Octets 32

abbrev TxHash := Digest

def Octets.toHex (a : Octets n) : String := Hex.encode a.bytes

/-- The first sixteen digits of a hexadecimal text and a sign that more follow. -/
def abbreviated (hex : String) : String := (hex.take 16).toString ++ "…"

inductive Refusal where
  | missing (argument : String)
  | invalid (reason : String)
  | feeNotPositive
  | amountNotPositive
  | addressLength
  | badAddress (argument : String)
  | unknownOption (option : Nat)
  | notRedactable (kind : TxKind)
  | foreignParameters
  | noCosigner (kind : TxKind)
  | unsigned
  | stated (text : String)
deriving DecidableEq, Repr

namespace Refusal

def invalidText (reason : String) : String := "invalid argument: " ++ reason

def message : Refusal → String
  | missing argument => "argument missing: " ++ argument
  | invalid reason => invalidText reason
  | feeNotPositive => invalidText "Fee must be > 0"
  | amountNotPositive => invalidText "Amount must be > 0"
  | addressLength => "invalid argument length: Address"
  | badAddress argument => invalidText argument
  | unknownOption option => invalidText ("unknown config option " ++ toString option)
  | notRedactable kind => invalidText (kind.name ++ " cannot be redacted")
  | foreignParameters => invalidText "chameleon parameters do not match the transaction"
  | noCosigner kind => invalidText (kind.name ++ " does not take a co-signature")
  | unsigned => invalidText "transaction is not signed"
  | stated text => text

end Refusal

/-- Directly given material with the wrong field count, width or content. -/
inductive Malformation where
  | hexLength (field : String) (expected actual : Nat)
  | hexDigit (field : String) (bad : Hex.BadDigit)
  | publicKeyFields (count : Nat)
  | privateKeyFields (count : Nat)
  | parameterFields (count : Nat)
  | foreignField
  | foreignOrder
  | notPoint (field : String) (fault : Bn254.EncodingFault)
  | notScalar (field : String) (fault : Bn254.EncodingFault)
  | generatorIsIdentity
  | trapdoorMismatch
  | keyOffCurve
  | secretOutOfRange
  | keyMismatch
  | stated (text : String)
deriving DecidableEq, Repr

namespace Malformation

def message : Malformation → String
  | hexLength field expected actual =>
    field ++ ": expected " ++ toString expected ++ " hex characters, got " ++ toString actual
  | hexDigit field bad =>
    field ++ ": Invalid character " ++ Text.quotedLatin (Char.ofNat bad.code.toNat) ++
      " at position " ++ toString bad.position
  | publicKeyFields count => "public key needs 2 or 3 fields, got " ++ toString count
  | privateKeyFields count => "private key needs 3 fields, got " ++ toString count
  | parameterFields count => "chameleon parameters need 4 or 5 fields, got " ++ toString count
  | foreignField => "p does not match the BN254 base field"
  | foreignOrder => "q does not match the BN254 group order"
  | notPoint field fault => field ++ ": not a BN254 G1 point (" ++ fault.message ++ ")"
  | notScalar field fault => field ++ ": not a BN254 scalar (" ++ fault.message ++ ")"
  | generatorIsIdentity => "g is the identity"
  | trapdoorMismatch => "tk is not the trapdoor for hk"
  | keyOffCurve => "X, Y is not a point on secp256k1"
  | secretOutOfRange => "D is not a valid secp256k1 scalar"
  | keyMismatch => "private key does not match its public coordinates"
  | stated text => text

def report (m : Malformation) : String := "decoding error: " ++ m.message

end Malformation

inductive AccessFault where
  | notFound
  | isDirectory
  | notDirectory
  | alreadyExists
  | nameTooLong
  | zeroInName
  | notText
deriving DecidableEq, Repr

def AccessFault.message : AccessFault → String
  | notFound => "No such file or directory (os error 2)"
  | isDirectory => "Is a directory (os error 21)"
  | notDirectory => "Not a directory (os error 20)"
  | alreadyExists => "File exists (os error 17)"
  | nameTooLong => "File name too long (os error 36)"
  | zeroInName => "file name contained an unexpected NUL byte"
  | notText => "stream did not contain valid UTF-8"

inductive FileFault where
  | access (fault : AccessFault)
  | privateKeyFields (count : Nat)
  | publicKeyFields (count : Nat)
  | malformed (cause : Malformation)
deriving DecidableEq, Repr

def FileFault.message : FileFault → String
  | access fault => fault.message
  | privateKeyFields count => "expected 3 key fields, found " ++ toString count
  | publicKeyFields count => "expected 2 or 3 key fields, found " ++ toString count
  | malformed cause => cause.report

inductive Unresolved where
  | file (path : String) (fault : FileFault)
  | configAccess (path : String) (fault : AccessFault)
  | configContent
  | stated (text : String)
deriving DecidableEq, Repr

def Unresolved.message : Unresolved → String
  | file path fault => path ++ ": " ++ fault.message
  | configAccess path fault => "cannot read config " ++ path ++ ": " ++ fault.message
  | configContent => "invalid config"
  | stated text => text

inductive CryptoFault where
  | noTrapdoor
  | trapdoorNotInvertible
  | redactionNeedsTrapdoor
  | collisionMismatch
  | signing
  | stated (text : String)
deriving DecidableEq, Repr

def CryptoFault.message : CryptoFault → String
  | noTrapdoor => "chameleon parameters carry no trapdoor key"
  | trapdoorNotInvertible => "trapdoor key is not invertible"
  | redactionNeedsTrapdoor => "redaction requires the trapdoor key"
  | collisionMismatch => "collision check string does not reproduce the hash"
  | signing => "signing failed: signature error"
  | stated text => text

inductive LayoutFault where
  | ended
  | width (actual : Nat)
  | boolean (found : Nat)
  | optionTag (found : Nat)
  | variant (found : Nat)
deriving DecidableEq, Repr

def LayoutFault.message : LayoutFault → String
  | ended => "io error: unexpected end of file"
  | width actual => "expected 64 bytes, got " ++ toString actual
  | boolean found =>
    "invalid u8 while decoding bool, expected 0 or 1, found " ++ toString found
  | optionTag found => "tag for enum is not valid, found " ++ toString found
  | variant found =>
    "invalid value: integer `" ++ toString found ++ "`, expected variant index 0 <= i < 5"

inductive EndpointFault where
  | noPort
  | badPort
deriving DecidableEq, Repr

def EndpointFault.message : EndpointFault → String
  | noPort => "invalid socket address"
  | badPort => "invalid port value"

inductive TransportFault where
  | oversized (length : Nat)
  | frameLength (length : Nat)
  | endedInHeader
  | endedInPayload
  | unreachable (endpoint : String) (fault : EndpointFault)
  | malformedAccount (fault : LayoutFault)
  | unexpectedReply (name : String)
  | stated (text : String)
deriving DecidableEq, Repr

def TransportFault.message : TransportFault → String
  | oversized length => "frame of " ++ toString length ++ " bytes exceeds limit"
  | frameLength length => "invalid frame length " ++ toString length
  | endedInHeader => "unexpected end of file"
  | endedInPayload => "early eof"
  | unreachable endpoint fault => "connect " ++ endpoint ++ ": " ++ fault.message
  | malformedAccount fault => "malformed account response: " ++ fault.message
  | unexpectedReply name => "unexpected reply type " ++ name
  | stated text => text

inductive StoreFault where
  | layout (fault : LayoutFault)
  | corruptIndex (hash : TxHash)
  | stated (text : String)
deriving DecidableEq

def StoreFault.message : StoreFault → String
  | layout fault => "serialization error: " ++ fault.message
  | corruptIndex hash => "corrupt kind index entry for " ++ hash.toHex
  | stated text => "serialization error: " ++ text

inductive Fault where
  | validation (cause : Refusal)
  | decoding (cause : Malformation)
  | resolution (cause : Unresolved)
  | notFound (hash : TxHash)
  | crypto (cause : CryptoFault)
  | transport (cause : TransportFault)
  | timeout (milliseconds : Nat)
  | cancelled
  | storage (cause : StoreFault)
deriving DecidableEq

namespace Fault

def message : Fault → String
  | validation cause => cause.message
  | decoding cause => cause.report
  | resolution cause => "resolution error: " ++ cause.message
  | notFound hash => "transaction not found: " ++ hash.toHex
  | crypto cause => "crypto error: " ++ cause.message
  | transport cause => "transport error: " ++ cause.message
  | timeout milliseconds => "request timed out after " ++ toString milliseconds ++ "ms"
  | cancelled => "request cancelled"
  | storage cause => cause.message

inductive Kind where
  | validation
  | decoding
  | resolution
  | notFound
  | crypto
  | transport
  | timeout
  | cancelled
  | storage
deriving DecidableEq, Repr

def Kind.name : Kind → String
  | .validation => "Validation"
  | .decoding => "Decoding"
  | .resolution => "Resolution"
  | .notFound => "NotFound"
  | .crypto => "Crypto"
  | .transport => "Transport"
  | .timeout => "Timeout"
  | .cancelled => "Cancelled"
  | .storage => "Storage"

def kind : Fault → Kind
  | validation _ => .validation
  | decoding _ => .decoding
  | resolution _ => .resolution
  | notFound _ => .notFound
  | crypto _ => .crypto
  | transport _ => .transport
  | timeout _ => .timeout
  | cancelled => .cancelled
  | storage _ => .storage

def missing (argument : String) : Fault := .validation (.missing argument)

end Fault

abbrev Outcome := Except Fault

def requirePositiveFee (fee : UInt64) : Outcome Unit :=
  if fee = 0 then .error (.validation .feeNotPositive) else .ok ()

/-- Reads one hexadecimal field of a fixed number of bytes; its name only serves the wording. -/
def decodeField (n : Nat) (field name : String) : Except Malformation (Octets n) :=
  if hs : field.utf8ByteSize = 2 * n then
    match h : Hex.decode field with
    | .error bad => .error (.hexDigit name bad)
    | .ok bytes => .ok ⟨bytes, by have := Hex.length_of_decode h; omega⟩
  else .error (.hexLength name (2 * n) field.utf8ByteSize)

end RedactableLedger
