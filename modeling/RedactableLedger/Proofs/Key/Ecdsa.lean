import Mathlib.Tactic.FieldSimp
import RedactableLedger.Key.Ecdsa
import RedactableLedger.Proofs.Curve.Secp256k1

namespace RedactableLedger

namespace Secp256k1

/-- Multiples of the base point go by the residue class of the factor. -/
theorem exists_multiples :
    ∃ f : ZMod groupOrder →+ Group, ∀ k : Scalar,
      (base.mul k.val).Denotes curveConstant (f (Field.residue k)) := by
  obtain ⟨A, hA⟩ := Point.exists_denotes discriminant_ne_zero base_onCurve
  have hzero : zmultiplesHom Group A groupOrder = 0 := by
    rw [zmultiplesHom_apply, natCast_zsmul, groupOrder_nsmul hA]
  refine ⟨ZMod.lift groupOrder ⟨zmultiplesHom Group A, hzero⟩, fun k => ?_⟩
  have hcast : Field.residue k = ((k.val : ℤ) : ZMod groupOrder) :=
    (Int.cast_natCast k.val).symm
  rw [hcast, ZMod.lift_coe, zmultiplesHom_apply, natCast_zsmul]
  exact hA.mul two_lt_fieldModulus k.val

end Secp256k1

namespace Ecdsa

open Secp256k1

variable {key : PrivateKey} {digest : Digest} {signature : Signature} {r s k d z : Scalar}
  {a : GroupPoint}

theorem abscissa_neg (a : GroupPoint) : abscissa (-a) = abscissa a := by
  cases a <;> rfl

theorem isHigh_neg (h : isHigh s = true) : isHigh (-s) = false := by
  have hlt : (-s).val < s.val := of_decide_eq_true h
  apply decide_eq_false
  rw [Field.neg_opposite]
  exact Nat.not_lt.2 hlt.le

theorem bytes_append (a : Octets m) (b : Octets n) : (a ++ b).bytes = a.bytes ++ b.bytes := rfl

theorem numbers?_append (hr : r ≠ 0) (hs : s ≠ 0) :
    numbers? ⟨Octets.ofNatBE 32 r.val ++ Octets.ofNatBE 32 s.val⟩ = some (r, s) := by
  have hn : groupOrder ≤ Nat.pow 256 32 := by
    decide
  have hread : ∀ k : Scalar, Bytes.toNatBE (Octets.ofNatBE 32 k.val).bytes = k.val :=
    fun k => Octets.toNatBE_ofNatBE (k.isLt.trans_le hn)
  rw [numbers?, bytes_append, List.take_left' (Octets.length_eq _),
    List.drop_left' (Octets.length_eq _), hread, hread, scalarOf?_ofNatBE hr,
    scalarOf?_ofNatBE hs]

/-- Dividing by the second number of a signature leaves the nonce or its opposite. -/
theorem nonce_of_proof {F : Type} [Field F] {d k z r s : F} (hs : s ≠ 0)
    (he : s = k⁻¹ * (z + r * d) ∨ s = -(k⁻¹ * (z + r * d))) :
    z * s⁻¹ + r * s⁻¹ * d = k ∨ z * s⁻¹ + r * s⁻¹ * d = -k := by
  -- neither factor of the second number is zero, since it is not zero itself
  rcases he with rfl | rfl
  · obtain ⟨hk, hsum⟩ := mul_ne_zero_iff.1 hs
    left
    field_simp
  · obtain ⟨hk, hsum⟩ := mul_ne_zero_iff.1 (neg_ne_zero.1 hs)
    right
    field_simp
    ring

/-- The second number of a signature before the smaller one of it and its opposite is taken. -/
def proof (d k z r : Scalar) : Scalar := Field.inv k * (z + r * d)

theorem two_lt_groupOrder : 2 < groupOrder := by
  decide

theorem residue_proof (d k z r : Scalar) : Field.residue (proof d k z r) =
    (Field.residue k)⁻¹ * (Field.residue z + Field.residue r * Field.residue d) := by
  rw [proof, Field.residue_mul, Field.residue_inv two_lt_groupOrder, Field.residue_add,
    Field.residue_mul]

/-- The point that is made of a signature is the nonce's multiple of the base point, or its
opposite. -/
theorem point_of_proof (hs : s ≠ 0) (he : s = proof d k z r ∨ s = -proof d k z r) :
    base.mul (z * Field.inv s).val + (base.mul d.val).mul (r * Field.inv s).val =
      base.mul k.val ∨
      base.mul (z * Field.inv s).val + (base.mul d.val).mul (r * Field.inv s).val =
        -base.mul k.val := by
  have hs' : Field.residue s ≠ 0 := fun h0 => hs (Field.residue_eq_zero.1 h0)
  have he' : Field.residue s =
      (Field.residue k)⁻¹ * (Field.residue z + Field.residue r * Field.residue d) ∨
      Field.residue s =
        -((Field.residue k)⁻¹ * (Field.residue z + Field.residue r * Field.residue d)) := by
    rw [← residue_proof, ← Field.residue_neg, Field.residue_inj, Field.residue_inj]
    exact he
  obtain ⟨f, hf⟩ := exists_multiples
  have hsum := (hf (z * Field.inv s)).add two_lt_fieldModulus
    ((hf d).mul two_lt_fieldModulus (r * Field.inv s).val)
  have hscalar : (r * Field.inv s).val • Field.residue d =
      Field.residue (r * Field.inv s) * Field.residue d :=
    nsmul_eq_mul _ _
  rw [← map_nsmul, ← map_add, hscalar, Field.residue_mul, Field.residue_mul,
    Field.residue_inv two_lt_groupOrder] at hsum
  rcases nonce_of_proof hs' he' with hnonce | hnonce
  · rw [hnonce] at hsum
    exact .inl (hsum.injective (hf k))
  · rw [hnonce, map_neg] at hsum
    exact .inr (hsum.injective (hf k).neg)

theorem verify_of_abscissa {key : PublicKey} (hnumbers : numbers? signature = some (r, s))
    (hlow : isHigh s = false) (hr : r ≠ 0)
    (ha : abscissa (base.mul (digestScalar digest * Field.inv s).val +
      key.point.mul (r * Field.inv s).val) = r) :
    verify key digest signature = true := by
  rw [verify, hnumbers]
  dsimp only
  rw [hlow, if_neg Bool.false_ne_true]
  cases hpoint : base.mul (digestScalar digest * Field.inv s).val +
    key.point.mul (r * Field.inv s).val with
  | infinity =>
    rw [hpoint] at ha
    exact absurd ha.symm hr
  | affine x y =>
    rw [hpoint] at ha
    exact decide_eq_true ha

theorem numbers_spec (d k : Scalar) (digest : Digest) :
    ∃ r s, numbers d k digest = (r, s) ∧ r = abscissa (base.mul k.val) ∧ isHigh s = false ∧
      (s = proof d k (digestScalar digest) r ∨ s = -proof d k (digestScalar digest) r) := by
  refine ⟨_, _, rfl, rfl, ?_⟩
  split
  · rename_i hhigh
    exact ⟨isHigh_neg hhigh, .inr rfl⟩
  · rename_i hlow
    exact ⟨eq_false_of_ne_true hlow, .inl rfl⟩

theorem verify_of_signUnder (h : signUnder key digest k = .ok signature) :
    verify key.publicKey digest signature = true := by
  obtain ⟨r, s, hnumbers, hr, hlow, hs⟩ := numbers_spec key.secret k digest
  rw [signUnder, hnumbers] at h
  dsimp only at h
  split at h
  · cases h
  · rename_i hnonzero
    obtain ⟨hr0, hs0⟩ := not_or.1 hnonzero
    cases h
    apply verify_of_abscissa (numbers?_append hr0 hs0) hlow hr0
    rw [key.publicKey_eq, PublicKey.ofSecret]
    rcases point_of_proof hs0 hs with hpoint | hpoint
    · rw [hpoint, hr]
    · rw [hpoint, abscissa_neg, hr]

theorem verify_of_sign (h : sign key digest = .ok signature) :
    verify key.publicKey digest signature = true := by
  rw [sign] at h
  generalize nonce? key.secret digest = nonce at h
  cases nonce with
  | none => cases h
  | some k => exact verify_of_signUnder h

theorem isEmpty_of_sign (h : sign key digest = .ok signature) : signature.isEmpty = false := by
  have hverify := verify_of_sign h
  rw [Signature.isEmpty, beq_eq_false_iff_ne]
  rintro rfl
  have hnumbers : numbers? .empty = none := by
    decide
  rw [verify, hnumbers] at hverify
  cases hverify

end Ecdsa

end RedactableLedger
