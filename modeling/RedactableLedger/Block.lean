import RedactableLedger.Digest.Sha3
import RedactableLedger.Layout

namespace RedactableLedger

structure BlockHeader where
  height : UInt32
  hash : Digest
  previous : Digest
  timestamp : Int64
  beneficiary : Digest
  txCount : UInt32
deriving DecidableEq

namespace BlockHeader

def digest (h : BlockHeader) : Digest :=
  sha3 (Bytes.ofNatLE 4 h.height.toNat ++ h.previous.bytes ++
    Bytes.ofNatLE 8 h.timestamp.toUInt64.toNat ++ h.beneficiary.bytes ++
    Bytes.ofNatLE 4 h.txCount.toNat)

def new (height : UInt32) (previous : Digest) (timestamp : Int64) (beneficiary : Digest)
    (txCount : UInt32) : BlockHeader :=
  let h : BlockHeader := ⟨height, Octets.zero 32, previous, timestamp, beneficiary, txCount⟩
  { h with hash := h.digest }

def isGenesis (h : BlockHeader) : Bool := h.previous == Octets.zero 32

end BlockHeader

def Layout.blockHeader : Layout BlockHeader :=
  (word.pair ((octets 32).pair ((octets 32).pair (signed.pair ((octets 32).pair word))))).map
    (fun (height, hash, previous, timestamp, beneficiary, txCount) =>
      ⟨height, hash, previous, timestamp, beneficiary, txCount⟩)
    (fun h => (h.height, h.hash, h.previous, h.timestamp, h.beneficiary, h.txCount))

end RedactableLedger
