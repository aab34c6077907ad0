import RedactableLedger.Octets
import RedactableLedger.Curve.Point

namespace RedactableLedger

namespace Bn254

def fieldModulus : Nat :=
  0x30644e72e131a029b85045b68181585d97816a916871ca8d3c208c16d87cfd47

def groupOrder : Nat :=
  0x30644e72e131a029b85045b68181585d2833e84879b9709143e1f593f0000001

instance : Modulus fieldModulus := ⟨by decide⟩
instance : Modulus groupOrder := ⟨by decide⟩

abbrev Coordinate := Fin fieldModulus

abbrev Scalar := Fin groupOrder

/-- A point with coordinates in the field, on the curve or not. -/
abbrev GroupPoint := Point fieldModulus

def curveConstant : Coordinate := 3

inductive EncodingFault where
  | invalidData
  | unexpectedFlags
deriving DecidableEq, Repr

def EncodingFault.message : EncodingFault → String
  | invalidData => "the input buffer contained invalid data"
  | unexpectedFlags => "the call expects empty flags"

def isGreater (y : Coordinate) : Bool := decide ((-y).val < y.val)

/-- Bit 254 of a written point, set for the point at infinity. -/
def infinityFlag : Nat := 0x4000000000000000000000000000000000000000000000000000000000000000

/-- Bit 255 of a written point, set for the greater of the two ordinates. -/
def greaterFlag : Nat := 0x8000000000000000000000000000000000000000000000000000000000000000

/-- The two points over an abscissa, if it has any: the one with the greater ordinate or the
other. -/
def pointOver? (x : Coordinate) (greater : Bool) : Option GroupPoint :=
  (Field.sqrt? (x * x * x + curveConstant)).map fun y =>
    .affine x (if isGreater y = greater then y else -y)

def encodeScalar (k : Scalar) : Octets 32 := Octets.ofNatLE 32 k.val

def decodeScalar (bytes : Octets 32) : Except EncodingFault Scalar :=
  match Field.ofNat? groupOrder bytes.toNatLE with
  | some k => .ok k
  | none => .error .invalidData

def encodePoint : GroupPoint → Octets 32
  | .infinity => Octets.ofNatLE 32 infinityFlag
  | .affine x y => Octets.ofNatLE 32 (x.val + if isGreater y then greaterFlag else 0)

/-- Reads a point of the curve: bit 255 asks for the greater ordinate, bit 254 for infinity. -/
def decodePoint (bytes : Octets 32) : Except EncodingFault GroupPoint :=
  let v := bytes.toNatLE
  let greater := v.testBit 255
  let atInfinity := v.testBit 254
  if greater && atInfinity then .error .unexpectedFlags
  else
    match Field.ofNat? fieldModulus (v % infinityFlag) with
    | none => .error .invalidData
    | some x =>
      if atInfinity then .ok .infinity
      else
        match pointOver? x greater with
        | some point => .ok point
        | none => .error .invalidData

def scalarOfNat (v : Nat) : Scalar := Fin.ofNat groupOrder v

def smul (k : Scalar) (a : GroupPoint) : GroupPoint := a.mul k.val

end Bn254

end RedactableLedger
