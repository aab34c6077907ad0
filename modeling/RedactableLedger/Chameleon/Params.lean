import RedactableLedger.Draws
import RedactableLedger.Fault

namespace RedactableLedger

structure ChameleonParams where
  g : Octets 32
  p : Octets 32
  q : Octets 32
  hk : Octets 32
  tk : Option (Octets 32)
deriving DecidableEq

namespace ChameleonParams

/-- The group elements that parameters stand for. -/
structure Decoded where
  g : Bn254.GroupPoint
  hk : Bn254.GroupPoint
  tk : Option Bn254.Scalar

def fieldModulus : Octets 32 := Octets.ofNatBE 32 Bn254.fieldModulus

def groupOrder : Octets 32 := Octets.ofNatBE 32 Bn254.groupOrder

def decodePoint (bytes : Octets 32) (name : String) : Except Malformation Bn254.GroupPoint :=
  (Bn254.decodePoint bytes).mapError (.notPoint name)

def decodeScalar (bytes : Octets 32) (name : String) : Except Malformation Bn254.Scalar :=
  (Bn254.decodeScalar bytes).mapError (.notScalar name)

def decodeTrapdoor (g hk : Bn254.GroupPoint) :
    Option (Octets 32) → Except Malformation (Option Bn254.Scalar)
  | none => .ok none
  | some bytes => do
    let tk ← decodeScalar bytes "tk"
    if Bn254.smul tk g = hk then .ok (some tk) else .error .trapdoorMismatch

/-- Reads the group elements: the moduli must be those of BN254, the generator must not be the
identity, and a trapdoor must belong to the hash key. -/
def decode (params : ChameleonParams) : Except Malformation Decoded :=
  if params.p ≠ fieldModulus then .error .foreignField
  else if params.q ≠ groupOrder then .error .foreignOrder
  else do
    let g ← decodePoint params.g "g"
    if g = .infinity then .error .generatorIsIdentity
    else
      let hk ← decodePoint params.hk "hk"
      let tk ← decodeTrapdoor g hk params.tk
      .ok ⟨g, hk, tk⟩

def ofFields? : List String → Except Malformation ChameleonParams
  | [g, p, q, hk] => do
    return ⟨← decodeField 32 g "g", ← decodeField 32 p "p", ← decodeField 32 q "q",
      ← decodeField 32 hk "hk", none⟩
  | [g, p, q, hk, tk] => do
    return ⟨← decodeField 32 g "g", ← decodeField 32 p "p", ← decodeField 32 q "q",
      ← decodeField 32 hk "hk", some (← decodeField 32 tk "tk")⟩
  | fields => .error (.parameterFields fields.length)

/-- Reads four or five hexadecimal fields and checks that they decode. -/
def ofFields (fields : List String) : Except Malformation ChameleonParams := do
  let params ← ofFields? fields
  let _ ← params.decode
  return params

def toFields (params : ChameleonParams) : List String :=
  [params.g.toHex, params.p.toHex, params.q.toHex, params.hk.toHex] ++
    (params.tk.map Octets.toHex).toList

def sanitized (params : ChameleonParams) : ChameleonParams := { params with tk := none }

def hasTrapdoor (params : ChameleonParams) : Bool := params.tk.isSome

def publicBytes (params : ChameleonParams) : Bytes :=
  params.g.bytes ++ params.p.bytes ++ params.q.bytes ++ params.hk.bytes

def ofTrapdoor (g : Bn254.GroupPoint) (tk : Bn254.Scalar) : ChameleonParams :=
  ⟨Bn254.encodePoint g, fieldModulus, groupOrder, Bn254.encodePoint (Bn254.smul tk g),
    some (Bn254.encodeScalar tk)⟩

/-- Draws fresh parameters: first the trapdoor, then the generator. -/
def generate : StateM Draws ChameleonParams := do
  let tk ← Draws.nonzeroScalar
  let g ← Draws.point
  return ofTrapdoor g tk

def brief (params : ChameleonParams) : String :=
  "ChParams \x7b hk: \"" ++ (params.hk.toHex.take 16).toString ++ "\", trapdoor: " ++
    toString params.hasTrapdoor ++ " \x7d"

end ChameleonParams

end RedactableLedger
