import RedactableLedger.Layout
import RedactableLedger.Transaction.Basic

namespace RedactableLedger

namespace Layout

def address : Layout Address := sized64.map Address.mk Address.octets

def signature : Layout Signature := sized64.map Signature.mk Signature.octets

def digest : Layout Digest := octets 32

def checkString : Layout CheckString := (octets 32).map CheckString.mk CheckString.octets

def params : Layout ChameleonParams :=
  ((octets 32).pair ((octets 32).pair
    ((octets 32).pair ((octets 32).pair (option (octets 32)))))).map
    (fun (g, p, q, hk, tk) => ⟨g, p, q, hk, tk⟩)
    (fun v => (v.g, v.p, v.q, v.hk, v.tk))

def accountCreation : Layout (Digest × Address × ChameleonParams) :=
  digest.pair (address.pair params)

def fundsTransfer : Layout (UInt64 × UInt32 × Digest × Digest) :=
  long.pair (word.pair (digest.pair digest))

def config : Layout (UInt8 × UInt64 × UInt32) := byte.pair (long.pair word)

def stake : Layout (Bool × Digest × Bytes) := flag.pair (digest.pair sized)

def update : Layout (TxHash × CheckString × Bytes × Digest) :=
  digest.pair (checkString.pair (sized.pair digest))

/-- A body: the number of its kind in four bytes, then its fields. -/
def body : Layout TxBody where
  encode
    | .accountCreation issuer newAddress params =>
      (natural 4).encode 0 ++ accountCreation.encode (issuer, newAddress, params)
    | .fundsTransfer amount txCount source target =>
      (natural 4).encode 1 ++ fundsTransfer.encode (amount, txCount, source, target)
    | .config option payload txCount =>
      (natural 4).encode 2 ++ config.encode (option, payload, txCount)
    | .stake isStaking account commitment =>
      (natural 4).encode 3 ++ stake.encode (isStaking, account, commitment)
    | .update target targetCheckString newData issuer =>
      (natural 4).encode 4 ++ update.encode (target, targetCheckString, newData, issuer)
  decode bytes := do
    let (variant, rest) ← (natural 4).decode bytes
    match variant with
    | 0 =>
      let ((issuer, newAddress, params), rest) ← accountCreation.decode rest
      return (.accountCreation issuer newAddress params, rest)
    | 1 =>
      let ((amount, txCount, source, target), rest) ← fundsTransfer.decode rest
      return (.fundsTransfer amount txCount source target, rest)
    | 2 =>
      let ((option, payload, txCount), rest) ← config.decode rest
      return (.config option payload txCount, rest)
    | 3 =>
      let ((isStaking, account, commitment), rest) ← stake.decode rest
      return (.stake isStaking account commitment, rest)
    | 4 =>
      let ((target, targetCheckString, newData, issuer), rest) ← update.decode rest
      return (.update target targetCheckString newData issuer, rest)
    | n => throw (.variant n)

def transaction : Layout Transaction :=
  (byte.pair (long.pair (sized.pair ((option checkString).pair
    (signature.pair (signature.pair body)))))).map
    (fun (header, fee, data, checkString, sig1, sig2, body) =>
      ⟨header, fee, data, checkString, sig1, sig2, body⟩)
    (fun tx => (tx.header, tx.fee, tx.data, tx.checkString, tx.sig1, tx.sig2, tx.body))

end Layout

end RedactableLedger
