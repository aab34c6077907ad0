import RedactableLedger.Proofs.Curve.Bn254

namespace RedactableLedger

namespace Field

variable {p : Nat} [Modulus p] {a y root : Fin p}

theorem mul_self_of_sqrt? (h : sqrt? a = some root) : root * root = a := by
  rw [sqrt?] at h
  split at h
  · cases h
    assumption
  · cases h

/-- For a prime that leaves 3 modulo 4 every square has a root, which is known up to its
sign. -/
theorem sqrt?_mul_self [Fact p.Prime] (hp : p % 4 = 3) (y : Fin p) :
    ∃ root, sqrt? (y * y) = some root ∧ (root = y ∨ root = -y) := by
  have hexp : (p + 1) / 4 + (p + 1) / 4 = (p - 1) / 2 + 1 := by
    omega
  have hhalf : 2 * ((p - 1) / 2) = p - 1 := by
    omega
  have hroot : pow (y * y) ((p + 1) / 4) * pow (y * y) ((p + 1) / 4) = y * y := by
    apply residue_injective
    simp only [residue_mul, residue_pow]
    by_cases hy : residue y = 0
    · rw [hy, mul_zero, zero_pow (by omega), mul_zero]
    · rw [← pow_add, hexp, pow_succ, ← pow_two, ← pow_mul, hhalf,
        ZMod.pow_card_sub_one_eq_one hy, one_mul]
  refine ⟨_, if_pos hroot, ?_⟩
  have hsq := congrArg residue hroot
  rw [residue_mul, residue_mul] at hsq
  rcases mul_self_eq_mul_self_iff.1 hsq with h | h
  · exact .inl (residue_injective h)
  · rw [← residue_neg] at h
    exact .inr (residue_injective h)

end Field

namespace Bn254

variable {x y : Coordinate} {a b : GroupPoint} {bytes : Octets 32}

theorem pointOver?_onCurve {greater : Bool} (h : pointOver? x greater = some a) :
    a.OnCurve curveConstant := by
  obtain ⟨root, hroot, rfl⟩ := Option.map_eq_some_iff.1 h
  have hsq := Field.mul_self_of_sqrt? hroot
  split
  · exact hsq
  · exact (Field.mul_self_neg root).trans hsq

theorem onCurve_of_decodePoint (h : decodePoint bytes = .ok a) : a.OnCurve curveConstant := by
  dsimp only [decodePoint] at h
  split at h
  · cases h
  · split at h
    · cases h
    · split at h
      · cases h
        trivial
      · split at h
        · rename_i hpoint
          cases h
          exact pointOver?_onCurve hpoint
        · cases h

theorem isGreater_neg (hy : y ≠ 0) : isGreater (-y) = !isGreater y := by
  have hne : (-y).val ≠ y.val := by
    intro he
    have hself := congrArg Field.residue (Fin.ext he)
    rw [Field.residue_neg, neg_eq_iff_add_eq_zero, ← two_mul, mul_eq_zero] at hself
    have h2 := two_ne_zero_of_lt two_lt_fieldModulus
    exact hy (Field.residue_eq_zero.1 (hself.resolve_left h2))
  rw [isGreater, isGreater, Field.neg_opposite, ← decide_not, decide_eq_decide]
  omega

theorem pointOver?_of_onCurve (h : (Point.affine x y).OnCurve curveConstant) :
    pointOver? x (isGreater y) = some (.affine x y) := by
  have hsq : y * y = x * x * x + curveConstant := h
  obtain ⟨root, hroot, hcases⟩ := Field.sqrt?_mul_self (by decide) y
  rw [pointOver?, ← hsq, hroot, Option.map_some]
  rcases hcases with rfl | rfl
  · rw [if_pos rfl]
  · by_cases hy : y = 0
    · subst hy
      rfl
    · rw [isGreater_neg hy, if_neg (by simp), Field.neg_opposite]

theorem flags_of_written {v : Nat} (hv : v < infinityFlag) (greater : Bool) :
    (v + if greater then greaterFlag else 0).testBit 255 = greater ∧
      (v + if greater then greaterFlag else 0).testBit 254 = false ∧
      (v + if greater then greaterFlag else 0) % infinityFlag = v ∧
      (v + if greater then greaterFlag else 0) < Nat.pow 256 32 := by
  have h254 : v < 2 ^ 254 := hv
  have h255 : v < 2 ^ 255 := h254.trans (by decide)
  have hmod : v % infinityFlag = v := Nat.mod_eq_of_lt hv
  cases greater with
  | false =>
    refine ⟨Nat.testBit_lt_two_pow h255, Nat.testBit_lt_two_pow h254, hmod, ?_⟩
    exact h255.trans (by decide)
  | true =>
    have hflag : v + greaterFlag = 2 ^ 255 + v := Nat.add_comm _ _
    rw [if_pos rfl, hflag]
    refine ⟨?_, ?_, ?_, ?_⟩
    · rw [Nat.testBit_two_pow_add_eq, Nat.testBit_lt_two_pow h255]
      rfl
    · rw [Nat.testBit_two_pow_add_gt (by decide), Nat.testBit_lt_two_pow h254]
    · rw [show 2 ^ 255 = infinityFlag * 2 by decide, Nat.mul_add_mod, hmod]
    · exact (Nat.add_lt_add_left h255 _).trans_le (by decide)

/-- What a point of the curve is written as is read as that point. -/
theorem decodePoint_encodePoint (h : a.OnCurve curveConstant) :
    decodePoint (encodePoint a) = .ok a := by
  cases a with
  | infinity => decide
  | affine x y =>
    have hx : x.val < infinityFlag := x.isLt.trans (by decide)
    obtain ⟨hgreater, hinfinity, habscissa, hlt⟩ := flags_of_written hx (isGreater y)
    have hv : (encodePoint (.affine x y)).toNatLE = x.val + if isGreater y then greaterFlag
        else 0 := by
      rw [encodePoint, Octets.toNatLE, Octets.ofNatLE, Bytes.toNatLE_ofNatLE,
        Nat.mod_eq_of_lt hlt]
    have hx' : Field.ofNat? fieldModulus x.val = some x := dif_pos x.isLt
    simp only [decodePoint, hv, hgreater, hinfinity, habscissa, hx', Bool.and_false,
      Bool.false_eq_true, if_false, pointOver?_of_onCurve h]

theorem encodePoint_injective (ha : a.OnCurve curveConstant) (hb : b.OnCurve curveConstant)
    (h : encodePoint a = encodePoint b) : a = b := by
  have hd := decodePoint_encodePoint ha
  rw [h, decodePoint_encodePoint hb] at hd
  injection hd with he
  exact he.symm

end Bn254

end RedactableLedger
