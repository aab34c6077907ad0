import RedactableLedger.Curve.Bn254
import RedactableLedger.Curve.Secp256k1

namespace RedactableLedger

inductive Candidate where
  | scalar (bytes : Octets 32)
  | abscissa (bytes : Octets 32)
deriving DecidableEq

namespace Candidate

def scalar? : Candidate → Option Bn254.Scalar
  | scalar bytes => some (Bn254.scalarOfNat bytes.toNatLE)
  | abscissa _ => none

def nonzeroScalar? (c : Candidate) : Option Bn254.Scalar :=
  c.scalar?.filter (· ≠ 0)

/-- The point over a candidate abscissa, whose top bit asks for the greater ordinate. -/
def point? : Candidate → Option Bn254.GroupPoint
  | scalar _ => none
  | abscissa bytes =>
    let v := bytes.toNatLE
    (Field.ofNat? Bn254.fieldModulus (v % Bn254.greaterFlag)).bind
      (Bn254.pointOver? · (v.testBit 255))

end Candidate

/-- The candidates still to come: those of BN254 material, and those of secret keys. -/
structure Draws where
  shared : List Candidate
  secrets : List (Octets 32)
deriving DecidableEq

namespace Draws

def none : Draws := ⟨[], []⟩

instance : Inhabited Draws := ⟨none⟩

def firstFit (fits : α → Option β) : List α → Option (β × List α)
  | [] => Option.none
  | a :: rest =>
    match fits a with
    | some b => some (b, rest)
    | Option.none => firstFit fits rest

def fromShared (fits : Candidate → Option α) (spent : α) : StateM Draws α := fun d =>
  match firstFit fits d.shared with
  | some (a, rest) => (a, { d with shared := rest })
  | Option.none => (spent, { d with shared := [] })

def scalar : StateM Draws Bn254.Scalar := fromShared Candidate.scalar? 1

def nonzeroScalar : StateM Draws Bn254.Scalar := fromShared Candidate.nonzeroScalar? 1

def point : StateM Draws Bn254.GroupPoint := fromShared Candidate.point? (.affine 1 2)

/-- Draws a secret key: big-endian, not zero, below the group order. -/
def secret : StateM Draws Secp256k1.Scalar := fun d =>
  match firstFit Secp256k1.scalarOf? d.secrets with
  | some (k, rest) => (k, { d with secrets := rest })
  | Option.none => (1, { d with secrets := [] })

end Draws

end RedactableLedger
