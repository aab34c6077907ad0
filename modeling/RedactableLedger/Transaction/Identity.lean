import RedactableLedger.Transaction.Basic

namespace RedactableLedger

def withLength (bytes : Bytes) : Bytes := Bytes.ofNatLE 4 bytes.length ++ bytes

def TxBody.content : TxBody → Bytes
  | accountCreation issuer newAddress params =>
    issuer.bytes ++ newAddress.octets.bytes ++ params.publicBytes
  | fundsTransfer amount txCount source target =>
    Bytes.ofNatLE 8 amount.toNat ++ Bytes.ofNatLE 4 txCount.toNat ++ source.bytes ++
      target.bytes
  | config option payload txCount =>
    option :: Bytes.ofNatLE 8 payload.toNat ++ Bytes.ofNatLE 4 txCount.toNat
  | stake isStaking account commitment =>
    (if isStaking then 1 else 0) :: account.bytes ++ withLength commitment
  | update target targetCheckString newData issuer =>
    target.bytes ++ targetCheckString.octets.bytes ++ withLength newData ++ issuer.bytes

namespace Transaction

def content (tx : Transaction) : Bytes :=
  tx.kind.code :: tx.header :: Bytes.ofNatLE 8 tx.fee.toNat ++ tx.body.content ++
    withLength tx.data

def contentHash (tx : Transaction) : Digest := sha3 tx.content

/-- The identifier: the chameleon hash of the content under the check string, or the plain
digest of a transaction without one. -/
def id (tx : Transaction) (params : Option ChameleonParams) : Outcome TxHash :=
  match tx.checkString, params with
  | some cs, some params => (params.hash cs tx.contentHash).mapError .decoding
  | some _, none => .error (.missing "ch_params")
  | none, _ => .ok tx.contentHash

end Transaction

end RedactableLedger
