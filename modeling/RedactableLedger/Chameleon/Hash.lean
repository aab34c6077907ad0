import RedactableLedger.Address
import RedactableLedger.Chameleon.Params

namespace RedactableLedger

structure CheckString where
  octets : Octets 32
deriving DecidableEq

namespace CheckString

def ofScalar (r : Bn254.Scalar) : CheckString := ⟨Bn254.encodeScalar r⟩

def decode (cs : CheckString) : Except Malformation Bn254.Scalar :=
  ChameleonParams.decodeScalar cs.octets "check string"

def ofHex (s : String) : Except Malformation CheckString := do
  let cs : CheckString := ⟨← decodeField 32 s "check string"⟩
  let _ ← cs.decode
  return cs

def toHex (cs : CheckString) : String := cs.octets.toHex

def draw : StateM Draws CheckString := ofScalar <$> Draws.scalar

def brief (cs : CheckString) : String := "CheckString(" ++ abbreviated cs.toHex ++ ")"

end CheckString

def messageScalar (content : Digest) : Bn254.Scalar := Bn254.scalarOfNat content.toNatBE

namespace ChameleonParams

def Decoded.commit (d : Decoded) (m r : Bn254.Scalar) : Bn254.GroupPoint :=
  Bn254.smul m d.g + Bn254.smul r d.hk

/-- The chameleon hash of a content digest under a check string. -/
def hash (params : ChameleonParams) (cs : CheckString) (content : Digest) :
    Except Malformation Digest := do
  let d ← params.decode
  let r ← cs.decode
  return sha3 (Bn254.encodePoint (d.commit (messageScalar content) r)).bytes

/-- The check string scalar that makes `m'` hash as `m` does under `r`. -/
def collisionScalar (tk r m m' : Bn254.Scalar) : Bn254.Scalar :=
  r + (m - m') * Field.inv tk

/-- The check string under which new content has the hash that old content has under an old
one. -/
def collide (params : ChameleonParams) (cs : CheckString) (old new : Digest) :
    Outcome CheckString := do
  let d ← params.decode.mapError .decoding
  match d.tk with
  | none => .error (.crypto .noTrapdoor)
  | some tk =>
    if tk = 0 then .error (.crypto .trapdoorNotInvertible)
    else
      let r ← cs.decode.mapError .decoding
      return .ofScalar (collisionScalar tk r (messageScalar old) (messageScalar new))

def newCheckString (params : ChameleonParams) :
    ExceptT Malformation (StateM Draws) CheckString := do
  let _ ← params.decode
  CheckString.draw

end ChameleonParams

end RedactableLedger
