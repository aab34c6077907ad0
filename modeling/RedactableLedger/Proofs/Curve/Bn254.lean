import Mathlib.Algebra.Module.ZMod
import Mathlib.GroupTheory.Perm.Cycle.Type
import RedactableLedger.Proofs.Curve.Group
import RedactableLedger.Proofs.Curve.Prime

namespace RedactableLedger

open WeierstrassCurve.Affine

namespace shortCurve

variable {K : Type} [Field K] {b : K}

def coordinates : (shortCurve b).Point → Option (K × K)
  | .zero => none
  | .some x y _ => some (x, y)

theorem coordinates_injective : Function.Injective (coordinates (b := b)) := by
  rintro (_ | ⟨x, y, h⟩) (_ | ⟨x', y', h'⟩) he
  · rfl
  · cases he
  · cases he
  · cases he
    rfl

instance [Finite K] : Finite (shortCurve b).Point :=
  .of_injective coordinates coordinates_injective

theorem eq_or_eq_neg_of_abscissa {A B : (shortCurve b).Point}
    (h : (coordinates A).map Prod.fst = (coordinates B).map Prod.fst) : A = B ∨ A = -B := by
  apply Point.eq_or_eq_neg_of_xRep_eq_xRep
  rcases A with _ | ⟨x, y, hxy⟩ <;> rcases B with _ | ⟨x', y', hxy'⟩
  · rfl
  · cases h
  · cases h
  · simp only [coordinates, Option.map_some, Option.some_inj] at h
    rw [Point.xRep_some, Point.xRep_some, h]

theorem card_le [Fintype K] : Nat.card (shortCurve b).Point ≤ 2 * (Fintype.card K + 1) := by
  classical
  have := Fintype.ofFinite (shortCurve b).Point
  rw [Nat.card_eq_fintype_card, ← Finset.card_univ, ← Fintype.card_option, ← Finset.card_univ]
  apply Finset.card_le_mul_card_image_of_maps_to (f := fun A => (coordinates A).map Prod.fst)
  · exact fun _ _ => Finset.mem_univ _
  · intro x _
    by_cases hx : ∃ A, (coordinates (b := b) A).map Prod.fst = x
    · obtain ⟨A, rfl⟩ := hx
      refine (Finset.card_le_card ?_).trans (Finset.card_le_two (a := A) (b := -A))
      intro B hB
      rw [Finset.mem_insert, Finset.mem_singleton]
      exact eq_or_eq_neg_of_abscissa (Finset.mem_filter.1 hB).2
    · rw [Finset.card_eq_zero.2]
      · exact Nat.zero_le 2
      · exact Finset.filter_eq_empty_iff.2 fun A _ hA => hx ⟨A, hA⟩

end shortCurve

namespace Bn254

abbrev Group : Type := (shortCurve (Field.residue curveConstant)).Point

theorem two_lt_fieldModulus : 2 < fieldModulus := by
  decide

theorem residue_curveConstant : Field.residue curveConstant = 3 := by
  rw [show curveConstant = Fin.ofNat fieldModulus 3 from rfl, Field.residue_ofNat,
    Nat.cast_ofNat]

theorem discriminant_ne_zero : 432 * Field.residue curveConstant ^ 2 ≠ 0 := by
  rw [residue_curveConstant]
  intro h
  have hdvd : fieldModulus ∣ 432 * 3 ^ 2 := by
    rw [← ZMod.natCast_eq_zero_iff]
    push_cast
    exact h
  exact absurd hdvd (by decide)

def generator : GroupPoint := .affine 1 2

theorem generator_onCurve : generator.OnCurve curveConstant := by
  decide

theorem groupOrder_mul_generator : generator.mul groupOrder = .infinity := by
  decide +kernel

theorem groupOrder_dvd_card : groupOrder ∣ Nat.card Group := by
  obtain ⟨A, hA⟩ := Point.exists_denotes discriminant_ne_zero generator_onCurve
  have hzero : groupOrder • A = 0 := by
    have hmul := hA.mul two_lt_fieldModulus groupOrder
    rw [groupOrder_mul_generator] at hmul
    exact hmul.unique .infinity
  have hne : A ≠ 0 := by
    rintro rfl
    cases hA
  rw [← addOrderOf_eq_prime hzero hne]
  exact addOrderOf_dvd_natCard A

theorem three_ne_zero : (3 : ZMod fieldModulus) ≠ 0 := by
  intro h
  have hdvd : fieldModulus ∣ 3 := by
    rw [← ZMod.natCast_eq_zero_iff]
    exact h
  exact absurd hdvd (by decide)

/-- The opposite of the curve's constant has no cube root, since it is no root of unity of the
order that cubes have. -/
theorem cube_ne (x : ZMod fieldModulus) : x ^ 3 ≠ -3 := by
  intro h
  have hx : x ≠ 0 := by
    rintro rfl
    rw [zero_pow (Nat.succ_ne_zero 2), eq_comm, neg_eq_zero] at h
    exact three_ne_zero h
  have hneg : (-3 : ZMod fieldModulus) = ((fieldModulus - 3 : Nat) : ZMod fieldModulus) := by
    rw [Nat.cast_sub (by decide), ZMod.natCast_self, zero_sub, Nat.cast_ofNat]
  have hexp : fieldModulus - 1 = 3 * ((fieldModulus - 1) / 3) := by
    decide
  have hone := ZMod.pow_card_sub_one_eq_one hx
  rw [hexp, pow_mul, h, hneg, LucasCertificate.natCast_pow_eq_one (by decide)] at hone
  have hpower : powerModulo fieldModulus (fieldModulus - 3) ((fieldModulus - 1) / 3) ≠ 1 := by
    decide +kernel
  exact hpower hone

theorem eq_zero_of_two_nsmul {A : Group} (h : 2 • A = 0) : A = 0 := by
  rw [two_nsmul] at h
  rcases A with _ | ⟨x, y, hxy⟩
  · rfl
  · by_cases hy : y = 0
    · have he := shortCurve.equation_iff.1 hxy.1
      rw [hy, residue_curveConstant, zero_pow two_ne_zero] at he
      exact absurd (eq_neg_of_add_eq_zero_left he.symm) (cube_ne x)
    · obtain ⟨h', he⟩ := shortCurve.add_some_self hxy (two_ne_zero_of_lt two_lt_fieldModulus) hy
      rw [he] at h
      exact absurd h (Point.some_ne_zero h')

theorem card_group : Nat.card Group = groupOrder := by
  obtain ⟨n, hn⟩ := groupOrder_dvd_card
  have hle : Nat.card Group ≤ 2 * (fieldModulus + 1) := by
    have h := shortCurve.card_le (b := Field.residue curveConstant)
    rw [ZMod.card] at h
    exact h
  have hpos : 0 < Nat.card Group := Nat.card_pos
  -- the number of points is a multiple of the order below three times it, and it is odd
  have hn2 : n ≠ 2 := by
    rintro rfl
    obtain ⟨A, hA⟩ :=
      exists_prime_addOrderOf_dvd_card' (G := Group) 2 (by rw [hn]; exact Dvd.intro_left _ rfl)
    have hzero : A = 0 := eq_zero_of_two_nsmul (by rw [← hA]; exact addOrderOf_nsmul_eq_zero A)
    rw [hzero, addOrderOf_zero] at hA
    exact absurd hA (by decide)
  have hn1 : n = 1 := by
    rw [hn] at hle hpos
    have h3 : n < 3 := by
      by_contra h
      have := Nat.mul_le_mul_left groupOrder (not_lt.1 h)
      exact absurd (this.trans hle) (by decide)
    have h0 : n ≠ 0 := by
      rintro rfl
      exact absurd hpos (by decide)
    omega
  rw [hn, hn1, mul_one]

theorem groupOrder_nsmul (A : Group) : groupOrder • A = 0 := by
  rw [← card_group]
  exact card_nsmul_eq_zero'

noncomputable instance : Module (ZMod groupOrder) Group :=
  AddCommGroup.zmodModule groupOrder_nsmul

theorem denotes_smul {a : GroupPoint} {A : Group} (h : a.Denotes curveConstant A) (k : Scalar) :
    (smul k a).Denotes curveConstant (Field.residue k • A) := by
  rw [show Field.residue k = (k.val : ZMod groupOrder) from rfl, Nat.cast_smul_eq_nsmul]
  exact h.mul two_lt_fieldModulus k.val

end Bn254

end RedactableLedger
