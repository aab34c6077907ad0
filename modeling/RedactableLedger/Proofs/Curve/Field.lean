import Mathlib.FieldTheory.Finite.Basic
import RedactableLedger.Curve.Field

namespace RedactableLedger

/-- What holds of zero, and of twice a number plus a digit after it holds of the number, holds
of the number that digits are read of. -/
theorem foldl_binaryDigits {β : Type} {step : β → Bool → β} {motive : Nat → β → Prop}
    (hstep : ∀ n x bit, motive n x → motive (2 * n + bit.toNat) (step x bit)) (e : Nat)
    {start : β} (hstart : motive 0 start) : motive e ((binaryDigits e).foldl step start) := by
  -- the last `k` digits lead from the number without them to the number
  have hdigits : ∀ k x, motive (e >>> k) x →
      motive e ((((List.range k).reverse.map e.testBit)).foldl step x) := by
    intro k
    induction k with
    | zero =>
      intro x hx
      exact hx
    | succ k ih =>
      intro x hx
      rw [List.range_succ, List.reverse_append, List.reverse_singleton, List.singleton_append,
        List.map_cons, List.foldl_cons]
      apply ih
      have hbit : 2 * (e >>> (k + 1)) + (e.testBit k).toNat = e >>> k := by
        rw [Nat.shiftRight_succ, Nat.testBit_eq_decide_div_mod_eq, Nat.shiftRight_eq_div_pow]
        rcases Nat.mod_two_eq_zero_or_one (e / 2 ^ k) with h | h <;> simp [h] <;> omega
      rw [← hbit]
      exact hstep _ x _ hx
  apply hdigits
  have hzero : e >>> (e.log2 + 1) = 0 := by
    rw [Nat.shiftRight_eq_div_pow, Nat.div_eq_of_lt Nat.lt_log2_self]
  rw [hzero]
  exact hstart

namespace Field

variable {p : Nat}

def residue (a : Fin p) : ZMod p := (a.val : ZMod p)

theorem residue_injective : Function.Injective (residue (p := p)) := by
  intro a b h
  rw [residue, residue, ZMod.natCast_eq_natCast_iff', Nat.mod_eq_of_lt a.isLt,
    Nat.mod_eq_of_lt b.isLt] at h
  exact Fin.ext h

@[simp] theorem residue_inj {a b : Fin p} :
    residue a = residue b ↔ a = b := residue_injective.eq_iff

@[simp] theorem residue_add (a b : Fin p) : residue (a + b) = residue a + residue b := by
  rw [residue, Fin.val_add, ZMod.natCast_mod, Nat.cast_add]
  rfl

@[simp] theorem residue_mul (a b : Fin p) : residue (a * b) = residue a * residue b := by
  rw [residue, Fin.val_mul, ZMod.natCast_mod, Nat.cast_mul]
  rfl

@[simp] theorem residue_sub (a b : Fin p) : residue (a - b) = residue a - residue b := by
  rw [residue, Fin.val_sub, ZMod.natCast_mod, Nat.cast_add, Nat.cast_sub b.isLt.le,
    ZMod.natCast_self, zero_sub, add_comm, sub_eq_add_neg]
  rfl

@[simp] theorem residue_neg (a : Fin p) : residue (-a) = -residue a := by
  rw [residue, Fin.val_neg', ZMod.natCast_mod, Nat.cast_sub a.isLt.le, ZMod.natCast_self,
    zero_sub]
  rfl

theorem mul_self_neg (a : Fin p) : -a * -a = a * a := by
  apply residue_injective
  rw [residue_mul, residue_mul, residue_neg, neg_mul_neg]

theorem neg_opposite (a : Fin p) : - -a = a := by
  apply residue_injective
  rw [residue_neg, residue_neg, neg_neg]

variable [Modulus p]

@[simp] theorem residue_ofNat (v : Nat) : residue (Fin.ofNat p v) = (v : ZMod p) := by
  rw [residue, Fin.val_ofNat, ZMod.natCast_mod]

@[simp] theorem residue_zero : residue (0 : Fin p) = 0 := by
  rw [residue, Fin.val_zero, Nat.cast_zero]

theorem residue_eq_zero {a : Fin p} : residue a = 0 ↔ a = 0 := by
  rw [← residue_zero, residue_inj]

theorem residue_pow (a : Fin p) (e : Nat) : residue (pow a e) = residue a ^ e := by
  refine foldl_binaryDigits (motive := fun n x => residue x = residue a ^ n) ?_ e ?_
  · intro n x bit hx
    cases bit with
    | false =>
      rw [if_neg Bool.false_ne_true, residue_mul, hx, Bool.toNat_false, add_zero, two_mul,
        pow_add]
    | true =>
      rw [if_pos rfl, residue_mul, residue_mul, hx, Bool.toNat_true, pow_succ, two_mul, pow_add]
  · rw [residue_ofNat, Nat.cast_one, pow_zero]

/-- For an odd prime the inverse of zero is zero, as it is for residue classes. -/
theorem residue_inv [Fact p.Prime] (hp : 2 < p) (a : Fin p) :
    residue (inv a) = (residue a)⁻¹ := by
  rw [inv, residue_pow]
  by_cases ha : residue a = 0
  · rw [ha, inv_zero, zero_pow (by omega)]
  · apply eq_inv_of_mul_eq_one_left
    rw [← pow_succ, show p - 2 + 1 = p - 1 by omega, ZMod.pow_card_sub_one_eq_one ha]

end Field

end RedactableLedger
