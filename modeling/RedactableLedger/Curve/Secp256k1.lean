import RedactableLedger.Octets
import RedactableLedger.Curve.Point

namespace RedactableLedger

namespace Secp256k1

def fieldModulus : Nat :=
  0xfffffffffffffffffffffffffffffffffffffffffffffffffffffffefffffc2f

def groupOrder : Nat :=
  0xfffffffffffffffffffffffffffffffebaaedce6af48a03bbfd25e8cd0364141

instance : Modulus fieldModulus := ⟨by decide⟩
instance : Modulus groupOrder := ⟨by decide⟩

abbrev Coordinate := Fin fieldModulus

abbrev Scalar := Fin groupOrder

/-- A point with coordinates in the field, on the curve or not. -/
abbrev GroupPoint := Point fieldModulus

def curveConstant : Coordinate := 7

def base : GroupPoint :=
  .affine (Fin.ofNat fieldModulus
    0x79be667ef9dcbbac55a06295ce870b07029bfcdb2dce28d959f2815b16f81798)
    (Fin.ofNat fieldModulus 0x483ada7726a3c4655da4fbfc0e1108a8fd17b448a68554199c47d08ffb10d4b8)

def pointOf? (x y : Octets 32) : Option GroupPoint :=
  match Field.ofNat? fieldModulus x.toNatBE, Field.ofNat? fieldModulus y.toNatBE with
  | some x, some y =>
    let point := Point.affine x y
    if point.OnCurve curveConstant then some point else none
  | _, _ => none

def scalarOf? (bytes : Octets 32) : Option Scalar :=
  match Field.ofNat? groupOrder bytes.toNatBE with
  | some k => if k = 0 then none else some k
  | none => none

end Secp256k1

end RedactableLedger
