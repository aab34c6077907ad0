import RedactableLedger.Curve.Field

namespace RedactableLedger

inductive Point (p : Nat) where
  | infinity
  | affine (x y : Fin p)
deriving DecidableEq, Repr

namespace Point

variable {p : Nat} [Modulus p]

def OnCurve (b : Fin p) : Point p → Prop
  | infinity => True
  | affine x y => y * y = x * x * x + b

instance (b : Fin p) : (a : Point p) → Decidable (OnCurve b a)
  | infinity => inferInstanceAs (Decidable True)
  | affine x y => inferInstanceAs (Decidable (y * y = x * x * x + b))

def neg : Point p → Point p
  | infinity => infinity
  | affine x y => affine x (-y)

/-- The third point of a line of a given slope, reflected at the axis of abscissas. -/
def alongSlope (slope x₁ y₁ x₂ : Fin p) : Point p :=
  let x := slope * slope - x₁ - x₂
  affine x (slope * (x₁ - x) - y₁)

def add : Point p → Point p → Point p
  | infinity, b => b
  | a, infinity => a
  | affine x₁ y₁, affine x₂ y₂ =>
    if x₁ = x₂ then
      if y₁ + y₂ = 0 then infinity
      else
        let square := x₁ * x₁
        alongSlope ((square + square + square) * Field.inv (y₁ + y₁)) x₁ y₁ x₁
    else alongSlope ((y₂ - y₁) * Field.inv (x₂ - x₁)) x₁ y₁ x₂

instance : Zero (Point p) := ⟨infinity⟩
instance : Neg (Point p) := ⟨neg⟩
instance : Add (Point p) := ⟨add⟩

end Point

/-- A point in Jacobian coordinates; `z = 0` stands for infinity. -/
structure Jacobian (p : Nat) where
  x : Fin p
  y : Fin p
  z : Fin p

namespace Jacobian

variable {p : Nat} [Modulus p]

def infinity : Jacobian p := ⟨Fin.ofNat p 1, Fin.ofNat p 1, 0⟩

def double (a : Jacobian p) : Jacobian p :=
  let xx := a.x * a.x
  let yy := a.y * a.y
  let yyyy := yy * yy
  let d := a.x * yy
  let d := d + d
  let d := d + d
  let e := xx + xx + xx
  let x := e * e - (d + d)
  let c := yyyy + yyyy
  let c := c + c
  let yz := a.y * a.z
  ⟨x, e * (d - x) - (c + c), yz + yz⟩

def addAffine (a : Jacobian p) (x y : Fin p) : Jacobian p :=
  if a.z = 0 then ⟨x, y, Fin.ofNat p 1⟩
  else
    let zz := a.z * a.z
    let h := x * zz - a.x
    let r := y * (zz * a.z) - a.y
    if h = 0 then if r = 0 then double a else infinity
    else
      let hh := h * h
      let hhh := hh * h
      let v := a.x * hh
      let x' := r * r - hhh - (v + v)
      ⟨x', r * (v - x') - a.y * hhh, a.z * h⟩

def toPoint (a : Jacobian p) : Point p :=
  if a.z = 0 then .infinity
  else
    let zInv := Field.inv a.z
    let zInv2 := zInv * zInv
    .affine (a.x * zInv2) (a.y * (zInv2 * zInv))

end Jacobian

namespace Point

variable {p : Nat} [Modulus p]

/-- A multiple of a point, by doubling and adding along the factor's binary digits. -/
def mul (k : Nat) : Point p → Point p
  | infinity => infinity
  | affine x y =>
    ((binaryDigits k).foldl
      (fun acc bit => if bit then acc.double.addAffine x y else acc.double)
      Jacobian.infinity).toPoint

end Point

end RedactableLedger
