import Mathlib.AlgebraicGeometry.EllipticCurve.Affine.Point
import Mathlib.Tactic.FieldSimp
import Mathlib.Tactic.LinearCombination
import RedactableLedger.Curve.Point
import RedactableLedger.Proofs.Curve.Field

namespace RedactableLedger

open WeierstrassCurve.Affine

def shortCurve {K : Type} [CommRing K] (b : K) : WeierstrassCurve.Affine K := ⟨0, 0, 0, 0, b⟩

namespace shortCurve

section

variable {K : Type} [CommRing K] {b x y : K}

theorem equation_iff : (shortCurve b).Equation x y ↔ y ^ 2 = x ^ 3 + b := by
  rw [WeierstrassCurve.Affine.equation_iff]
  simp [shortCurve]

theorem discriminant_eq : (shortCurve b).Δ = -(432 * b ^ 2) := by
  simp only [WeierstrassCurve.Δ, WeierstrassCurve.b₂, WeierstrassCurve.b₄, WeierstrassCurve.b₆,
    WeierstrassCurve.b₈, shortCurve]
  ring

/-- Over a curve with a discriminant every solution of the equation is a point. -/
theorem nonsingular_of_equation (hb : 432 * b ^ 2 ≠ 0) (h : y ^ 2 = x ^ 3 + b) :
    (shortCurve b).Nonsingular x y := by
  rw [← equation_iff_nonsingular_of_Δ_ne_zero, shortCurve.equation_iff]
  · exact h
  · rw [discriminant_eq]
    exact neg_ne_zero.2 hb

theorem negY_eq : (shortCurve b).negY x y = -y := by
  simp [negY, shortCurve]

end

variable {K : Type} [Field K] {b x y x₁ y₁ x₂ y₂ : K}

theorem neg_some (h : (shortCurve b).Nonsingular x y) :
    ∃ h', -Point.some x y h = Point.some x (-y) h' := by
  rw [Point.neg_some]
  rw [← negY_eq (b := b) (x := x)]
  exact ⟨_, rfl⟩

theorem eq_of_not_opposite (h₁ : (shortCurve b).Nonsingular x₁ y₁)
    (h₂ : (shortCurve b).Nonsingular x₂ y₂) (hx : x₁ = x₂) (hy : y₁ + y₂ ≠ 0) : y₁ = y₂ := by
  apply Y_eq_of_Y_ne h₁.1 h₂.1 hx
  rw [negY_eq]
  exact fun h => hy (add_eq_zero_iff_eq_neg.2 h)

variable [DecidableEq K] (h₁ : (shortCurve b).Nonsingular x₁ y₁)
  (h₂ : (shortCurve b).Nonsingular x₂ y₂)

theorem add_some_opposite (hx : x₁ = x₂) (hy : y₁ + y₂ = 0) :
    Point.some x₁ y₁ h₁ + Point.some x₂ y₂ h₂ = 0 := by
  apply Point.add_of_Y_eq hx
  rw [negY_eq]
  exact eq_neg_of_add_eq_zero_left hy

theorem add_some_of_slope {ℓ : K} (hℓ : (shortCurve b).slope x₁ x₂ y₁ y₂ = ℓ)
    (hxy : ¬ (x₁ = x₂ ∧ y₁ + y₂ = 0)) :
    ∃ h, Point.some x₁ y₁ h₁ + Point.some x₂ y₂ h₂ =
      Point.some (ℓ ^ 2 - x₁ - x₂) (ℓ * (x₁ - (ℓ ^ 2 - x₁ - x₂)) - y₁) h := by
  have hne : ¬ (x₁ = x₂ ∧ y₁ = (shortCurve b).negY x₂ y₂) := by
    rw [negY_eq]
    exact fun h => hxy ⟨h.1, by rw [h.2, neg_add_cancel]⟩
  have hX : (shortCurve b).addX x₁ x₂ ℓ = ℓ ^ 2 - x₁ - x₂ := by
    simp [shortCurve]
  have hY : (shortCurve b).addY x₁ x₂ y₁ ℓ = ℓ * (x₁ - (ℓ ^ 2 - x₁ - x₂)) - y₁ := by
    rw [addY, negY_eq, negAddY, hX]
    ring
  rw [Point.add_some hne]
  subst hℓ
  rw [← hY, ← hX]
  exact ⟨_, rfl⟩

theorem add_some_of_ne (hx : x₁ ≠ x₂) :
    ∃ h, Point.some x₁ y₁ h₁ + Point.some x₂ y₂ h₂ =
      Point.some (((y₂ - y₁) / (x₂ - x₁)) ^ 2 - x₁ - x₂)
        ((y₂ - y₁) / (x₂ - x₁) * (x₁ - (((y₂ - y₁) / (x₂ - x₁)) ^ 2 - x₁ - x₂)) - y₁) h := by
  apply add_some_of_slope
  · rw [slope_of_X_ne hx, ← neg_sub y₂, ← neg_sub x₂, neg_div_neg_eq]
  · exact fun h => hx h.1

theorem add_some_self (h2 : (2 : K) ≠ 0) (hy : y₁ ≠ 0) :
    ∃ h, Point.some x₁ y₁ h₁ + Point.some x₁ y₁ h₁ =
      Point.some ((3 * x₁ ^ 2 / (2 * y₁)) ^ 2 - x₁ - x₁)
        (3 * x₁ ^ 2 / (2 * y₁) * (x₁ - ((3 * x₁ ^ 2 / (2 * y₁)) ^ 2 - x₁ - x₁)) - y₁) h := by
  have hne : y₁ + y₁ ≠ 0 := by
    rw [← two_mul]
    exact mul_ne_zero h2 hy
  apply add_some_of_slope
  · rw [slope_of_Y_ne rfl, negY_eq]
    · simp [shortCurve]
      rw [two_mul]
    · rw [negY_eq]
      exact fun h => hne (add_eq_zero_iff_eq_neg.2 h)
  · exact fun h => hne h.2

end shortCurve

open shortCurve

theorem two_ne_zero_of_lt {p : Nat} (hp : 2 < p) : (2 : ZMod p) ≠ 0 := by
  intro h
  have hdvd := (ZMod.natCast_eq_zero_iff 2 p).1 h
  exact absurd (Nat.le_of_dvd (by decide) hdvd) (by omega)

/-- A point of the plane denotes a point of the curve. -/
inductive Point.Denotes {p : Nat} [Modulus p] (b : Fin p) :
    Point p → (shortCurve (Field.residue b)).Point → Prop
  | infinity : Denotes b .infinity 0
  | affine
      (h : (shortCurve (Field.residue b)).Nonsingular (Field.residue x) (Field.residue y)) :
      Denotes b (.affine x y) (.some _ _ h)

def Jacobian.Denotes {p : Nat} [Modulus p] (b : Fin p) (a : Jacobian p) :
    (shortCurve (Field.residue b)).Point → Prop
  | .zero => a.z = 0
  | .some x y _ => Field.residue a.z ≠ 0 ∧ Field.residue a.x = x * Field.residue a.z ^ 2 ∧
      Field.residue a.y = y * Field.residue a.z ^ 3

namespace Point

variable {p : Nat} [Modulus p] {b : Fin p}

theorem denotes_affine {x y : Fin p} {x' y' : ZMod p}
    {h : (shortCurve (Field.residue b)).Nonsingular x' y'} (hx : Field.residue x = x')
    (hy : Field.residue y = y') :
    Denotes b (.affine x y) (.some x' y' h) := by
  subst hx hy
  exact .affine h

theorem affine_add_affine (x₁ y₁ x₂ y₂ : Fin p) : affine x₁ y₁ + affine x₂ y₂ =
    if x₁ = x₂ then
      if y₁ + y₂ = 0 then infinity
      else alongSlope ((x₁ * x₁ + x₁ * x₁ + x₁ * x₁) * Field.inv (y₁ + y₁)) x₁ y₁ x₁
    else alongSlope ((y₂ - y₁) * Field.inv (x₂ - x₁)) x₁ y₁ x₂ := rfl

theorem Denotes.unique {a : Point p} {A A' : (shortCurve (Field.residue b)).Point}
    (h : a.Denotes b A) (h' : a.Denotes b A') : A = A' := by
  cases h <;> cases h' <;> rfl

theorem Denotes.injective {a a' : Point p} {A : (shortCurve (Field.residue b)).Point}
    (h : a.Denotes b A) (h' : a'.Denotes b A) : a = a' := by
  cases h with
  | infinity =>
    generalize hz : (0 : (shortCurve (Field.residue b)).Point) = Z at h'
    cases h' with
    | infinity => rfl
    | affine hxy => exact absurd hz.symm (Point.some_ne_zero hxy)
  | affine hxy =>
    generalize hz : Point.some _ _ hxy = Z at h'
    cases h' with
    | infinity => exact absurd hz (Point.some_ne_zero hxy)
    | affine hxy' =>
      injection hz with hx hy
      rw [Field.residue_injective hx, Field.residue_injective hy]

theorem exists_denotes (hb : 432 * Field.residue b ^ 2 ≠ 0) {a : Point p} (h : a.OnCurve b) :
    ∃ A, a.Denotes b A := by
  cases a with
  | infinity => exact ⟨0, .infinity⟩
  | affine x y =>
    have he := congrArg Field.residue h
    simp only [Field.residue_add, Field.residue_mul] at he
    refine ⟨_, .affine (nonsingular_of_equation hb ?_)⟩
    rw [pow_two, pow_three', he]

theorem Denotes.onCurve {a : Point p} {A : (shortCurve (Field.residue b)).Point}
    (h : a.Denotes b A) :
    a.OnCurve b := by
  cases h with
  | infinity => trivial
  | @affine x y hxy =>
    have he := shortCurve.equation_iff.1 hxy.1
    apply Field.residue_injective
    simp only [Field.residue_add, Field.residue_mul]
    rw [← pow_two, ← pow_three', he]

variable [Fact p.Prime]

theorem Denotes.neg {a : Point p} {A : (shortCurve (Field.residue b)).Point}
    (h : a.Denotes b A) :
    (-a).Denotes b (-A) := by
  cases h with
  | infinity => exact .infinity
  | affine h =>
    obtain ⟨h', he⟩ := neg_some h
    rw [he]
    exact denotes_affine rfl (Field.residue_neg _)

theorem denotes_alongSlope {slope x₁ y₁ x₂ : Fin p} {ℓ : ZMod p}
    {P : (shortCurve (Field.residue b)).Point} (hℓ : Field.residue slope = ℓ)
    (hP : ∃ h, P = .some (ℓ ^ 2 - Field.residue x₁ - Field.residue x₂)
      (ℓ * (Field.residue x₁ - (ℓ ^ 2 - Field.residue x₁ - Field.residue x₂)) -
        Field.residue y₁) h) :
    (alongSlope slope x₁ y₁ x₂).Denotes b P := by
  obtain ⟨h, rfl⟩ := hP
  apply denotes_affine
  · simp only [Field.residue_sub, Field.residue_mul, hℓ, pow_two]
  · simp only [Field.residue_sub, Field.residue_mul, hℓ, pow_two]

theorem Denotes.add (hp : 2 < p) {a c : Point p} {A C : (shortCurve (Field.residue b)).Point}
    (ha : a.Denotes b A) (hc : c.Denotes b C) : (a + c).Denotes b (A + C) := by
  cases ha with
  | infinity =>
    rw [zero_add]
    exact hc
  | @affine x₁ y₁ h₁ =>
    cases hc with
    | infinity =>
      rw [add_zero]
      exact .affine h₁
    | @affine x₂ y₂ h₂ =>
      rw [affine_add_affine]
      by_cases hx : x₁ = x₂
      · rw [if_pos hx]
        by_cases hy : y₁ + y₂ = 0
        · have hy' : Field.residue y₁ + Field.residue y₂ = 0 := by
            rw [← Field.residue_add, hy, Field.residue_zero]
          rw [if_pos hy, add_some_opposite h₁ h₂ (congrArg _ hx) hy']
          exact .infinity
        · have hy' : Field.residue y₁ + Field.residue y₂ ≠ 0 := by
            rw [← Field.residue_add]
            exact fun h => hy (Field.residue_eq_zero.1 h)
          have heq : y₁ = y₂ :=
            Field.residue_injective (eq_of_not_opposite h₁ h₂ (congrArg _ hx) hy')
          subst hx heq
          rw [if_neg hy]
          have h2 := two_ne_zero_of_lt hp
          have hne : Field.residue y₁ ≠ 0 := by
            intro h
            rw [h, add_zero] at hy'
            exact hy' rfl
          refine denotes_alongSlope ?_ (add_some_self h₁ h2 hne)
          simp only [Field.residue_mul, Field.residue_add, Field.residue_inv hp]
          rw [← two_mul (Field.residue y₁), div_eq_mul_inv]
          ring
      · rw [if_neg hx]
        have hx' : Field.residue x₁ ≠ Field.residue x₂ :=
          fun h => hx (Field.residue_injective h)
        refine denotes_alongSlope ?_ (add_some_of_ne h₁ h₂ hx')
        simp only [Field.residue_mul, Field.residue_sub, Field.residue_inv hp, div_eq_mul_inv]

end Point

namespace Jacobian

variable {p : Nat} [Modulus p] {b : Fin p} {a : Jacobian p}
  {A : (shortCurve (Field.residue b)).Point}

theorem denotes_zero (h : a.z = 0) : a.Denotes b 0 := h

theorem denotes_some {x y : ZMod p} {h : (shortCurve (Field.residue b)).Nonsingular x y}
    (hz : Field.residue a.z ≠ 0) (hx : Field.residue a.x = x * Field.residue a.z ^ 2)
    (hy : Field.residue a.y = y * Field.residue a.z ^ 3) : a.Denotes b (.some x y h) :=
  ⟨hz, hx, hy⟩

/-- The sum with the affine differences cleared of their denominators. -/
theorem addAffine_eq (hz : a.z ≠ 0) {x y h r : Fin p} (hh : x * (a.z * a.z) - a.x = h)
    (hr : y * (a.z * a.z * a.z) - a.y = r) : a.addAffine x y =
      if h = 0 then if r = 0 then a.double else infinity
      else
        let v := a.x * (h * h)
        let x' := r * r - h * h * h - (v + v)
        ⟨x', r * (v - x') - a.y * (h * h * h), a.z * h⟩ := by
  subst hh hr
  exact if_neg hz

variable [Fact p.Prime]

theorem Denotes.double (hp : 2 < p) (h : a.Denotes b A) : a.double.Denotes b (A + A) := by
  have h2 := two_ne_zero_of_lt hp
  cases A with
  | zero =>
    have hz : a.z = 0 := h
    refine denotes_zero (Field.residue_eq_zero.1 ?_)
    simp only [Jacobian.double, hz, Field.residue_add, Field.residue_mul, Field.residue_zero]
    ring
  | some x y hxy =>
    obtain ⟨hz, hX, hY⟩ := h
    by_cases hy : y = 0
    · rw [add_some_opposite hxy hxy rfl (by rw [hy, add_zero])]
      refine denotes_zero (Field.residue_eq_zero.1 ?_)
      simp only [Jacobian.double, Field.residue_add, Field.residue_mul, hY, hy]
      ring
    · obtain ⟨h', he⟩ := add_some_self hxy h2 hy
      rw [he]
      have hz' : Field.residue a.double.z = 2 * y * Field.residue a.z ^ 4 := by
        simp only [Jacobian.double, Field.residue_add, Field.residue_mul, hY]
        ring
      refine ⟨?_, ?_, ?_⟩
      · rw [hz']
        exact mul_ne_zero (mul_ne_zero h2 hy) (pow_ne_zero 4 hz)
      · rw [hz']
        simp only [Jacobian.double, Field.residue_add, Field.residue_sub,
          Field.residue_mul, hX, hY]
        field_simp
        ring
      · rw [hz']
        simp only [Jacobian.double, Field.residue_add, Field.residue_sub,
          Field.residue_mul, hX, hY]
        field_simp
        ring

theorem denotes_affine {x y : Fin p}
    (hxy : (shortCurve (Field.residue b)).Nonsingular (Field.residue x) (Field.residue y)) :
    Denotes b ⟨x, y, Fin.ofNat p 1⟩ (.some _ _ hxy) := by
  have hone : Field.residue (Fin.ofNat p 1) = 1 := by
    rw [Field.residue_ofNat, Nat.cast_one]
  refine denotes_some ?_ ?_ ?_
  · rw [hone]
    exact one_ne_zero
  · rw [hone, one_pow, mul_one]
  · rw [hone, one_pow, mul_one]

section Sum

variable {x y h r : Fin p} {x₁ y₁ : ZMod p}
  {h₁ : (shortCurve (Field.residue b)).Nonsingular x₁ y₁}
  {hxy : (shortCurve (Field.residue b)).Nonsingular (Field.residue x) (Field.residue y)}

/-- Over one abscissa the points are equal or opposite, and the ordinates tell which. -/
theorem denotes_sameAbscissa (hp : 2 < p) (ha : a.Denotes b (.some x₁ y₁ h₁))
    (hx : x₁ = Field.residue x)
    (hdy : Field.residue r = (Field.residue y - y₁) * Field.residue a.z ^ 3) :
    (if r = 0 then a.double else infinity).Denotes b (.some x₁ y₁ h₁ + .some _ _ hxy) := by
  have hdouble := Denotes.double hp ha
  obtain ⟨hz, _, _⟩ := ha
  by_cases hr : r = 0
  · have hy : y₁ = Field.residue y := by
      rw [hr, Field.residue_zero] at hdy
      exact (sub_eq_zero.1 ((mul_eq_zero.1 hdy.symm).resolve_right (pow_ne_zero 3 hz))).symm
    subst hx hy
    rw [if_pos hr]
    exact hdouble
  · have hopposite : y₁ + Field.residue y = 0 := by
      by_contra hne
      have hy := eq_of_not_opposite h₁ hxy hx hne
      rw [hy, sub_self, zero_mul] at hdy
      exact hr (Field.residue_eq_zero.1 hdy)
    rw [if_neg hr, add_some_opposite h₁ hxy hx hopposite]
    exact denotes_zero rfl

theorem denotes_chord (ha : a.Denotes b (.some x₁ y₁ h₁)) (hx : x₁ ≠ Field.residue x)
    (hdx : Field.residue h = (Field.residue x - x₁) * Field.residue a.z ^ 2)
    (hdy : Field.residue r = (Field.residue y - y₁) * Field.residue a.z ^ 3) :
    (let v := a.x * (h * h)
     let x' := r * r - h * h * h - (v + v)
     Jacobian.mk x' (r * (v - x') - a.y * (h * h * h)) (a.z * h)).Denotes b
      (.some x₁ y₁ h₁ + .some _ _ hxy) := by
  obtain ⟨hz, hX, hY⟩ := ha
  have hx' : Field.residue x - x₁ ≠ 0 := fun h0 => hx (sub_eq_zero.1 h0).symm
  obtain ⟨h', he⟩ := add_some_of_ne h₁ hxy hx
  rw [he]
  have hz' : Field.residue (a.z * h) = Field.residue a.z ^ 3 * (Field.residue x - x₁) := by
    rw [Field.residue_mul, hdx]
    ring
  refine denotes_some ?_ ?_ ?_
  · rw [hz']
    exact mul_ne_zero (pow_ne_zero 3 hz) hx'
  · rw [hz']
    simp only [Field.residue_add, Field.residue_sub, Field.residue_mul, hX, hdx, hdy]
    field_simp
    ring
  · rw [hz']
    simp only [Field.residue_add, Field.residue_sub, Field.residue_mul, hX, hY, hdx, hdy]
    field_simp
    ring

end Sum

theorem Denotes.addAffine (hp : 2 < p) (ha : a.Denotes b A) {x y : Fin p}
    (hxy : (shortCurve (Field.residue b)).Nonsingular (Field.residue x) (Field.residue y)) :
    (a.addAffine x y).Denotes b (A + .some _ _ hxy) := by
  cases A with
  | zero =>
    have hz : a.z = 0 := ha
    change (a.addAffine x y).Denotes b (0 + _)
    rw [Jacobian.addAffine, if_pos hz, zero_add]
    exact denotes_affine hxy
  | some x₁ y₁ h₁ =>
    obtain ⟨hz, hX, hY⟩ := id ha
    obtain ⟨h, hh⟩ : ∃ h, x * (a.z * a.z) - a.x = h := ⟨_, rfl⟩
    obtain ⟨r, hr⟩ : ∃ r, y * (a.z * a.z * a.z) - a.y = r := ⟨_, rfl⟩
    have hdx : Field.residue h = (Field.residue x - x₁) * Field.residue a.z ^ 2 := by
      rw [← hh]
      simp only [Field.residue_sub, Field.residue_mul, hX]
      ring
    have hdy : Field.residue r = (Field.residue y - y₁) * Field.residue a.z ^ 3 := by
      rw [← hr]
      simp only [Field.residue_sub, Field.residue_mul, hY]
      ring
    have hsame : h = 0 ↔ x₁ = Field.residue x := by
      rw [← Field.residue_eq_zero, hdx, mul_eq_zero, or_iff_left (pow_ne_zero 2 hz),
        sub_eq_zero, eq_comm]
    rw [addAffine_eq (fun h0 => hz (Field.residue_eq_zero.2 h0)) hh hr]
    by_cases hx : x₁ = Field.residue x
    · rw [if_pos (hsame.2 hx)]
      exact denotes_sameAbscissa hp ha hx hdy
    · rw [if_neg (mt hsame.1 hx)]
      exact denotes_chord ha hx hdx hdy

theorem Denotes.toPoint (hp : 2 < p) (h : a.Denotes b A) : a.toPoint.Denotes b A := by
  cases A with
  | zero =>
    have hz : a.z = 0 := h
    rw [Jacobian.toPoint, if_pos hz]
    exact .infinity
  | some x y hxy =>
    obtain ⟨hz, hX, hY⟩ := h
    rw [Jacobian.toPoint, if_neg fun h0 => hz (Field.residue_eq_zero.2 h0)]
    apply Point.denotes_affine
    · simp only [Field.residue_mul, Field.residue_inv hp, hX]
      field_simp
    · simp only [Field.residue_mul, Field.residue_inv hp, hY]
      field_simp

end Jacobian

theorem Point.Denotes.mul {p : Nat} [Modulus p] [Fact p.Prime] {b : Fin p} (hp : 2 < p)
    {a : Point p} {A : (shortCurve (Field.residue b)).Point} (h : a.Denotes b A) (k : Nat) :
    (a.mul k).Denotes b (k • A) := by
  cases h with
  | infinity =>
    rw [nsmul_zero]
    exact .infinity
  | @affine x y hxy =>
    apply Jacobian.Denotes.toPoint hp
    refine foldl_binaryDigits
      (motive := fun n (acc : Jacobian p) => acc.Denotes b (n • .some _ _ hxy)) ?_ k ?_
    · intro n acc bit hacc
      have hdouble := hacc.double hp
      rw [← two_nsmul, smul_smul] at hdouble
      cases bit with
      | false => exact hdouble
      | true =>
        rw [Bool.toNat_true, succ_nsmul]
        exact hdouble.addAffine hp hxy
    · rw [zero_nsmul]
      exact Jacobian.denotes_zero rfl

end RedactableLedger
