import RedactableLedger.Curve.Secp256k1
import RedactableLedger.Proofs.Curve.Group
import RedactableLedger.Proofs.Curve.Prime

namespace RedactableLedger

namespace Secp256k1

def smallPrimes : List Nat :=
  [2, 3, 5, 7, 11, 17, 29, 31, 41, 53, 59, 97, 109, 149, 293, 461, 631, 797, 971, 1373, 1627,
   1871, 2011, 2621, 2657, 4051, 4423, 5323, 7723, 9349, 13441, 16699, 20113, 24809, 28181,
   41201, 85831, 96557, 120233, 305873]

theorem prime_of_mem_smallPrimes : ∀ q ∈ smallPrimes, q.Prime := by
  simp only [smallPrimes, List.forall_mem_cons]
  norm_num

/-- Certificates of the group order and of the coordinates' modulus. -/
def certificates : List LucasCertificate :=
  [⟨4681609, 23, [(2, 3), (3, 1), (97, 1), (2011, 1)]⟩,
   ⟨107361793816595537, 3, [(2, 4), (16699, 1), (85831, 1), (4681609, 1)]⟩,
   ⟨44706919, 6, [(2, 1), (3, 1), (797, 1), (9349, 1)]⟩,
   ⟨174723607534414371449, 3,
     [(2, 3), (17, 1), (59, 1), (4051, 1), (120233, 1), (44706919, 1)]⟩,
   ⟨545358713, 5, [(2, 3), (41, 1), (59, 1), (28181, 1)]⟩,
   ⟨1627771, 3, [(2, 1), (3, 1), (5, 1), (29, 1), (1871, 1)]⟩,
   ⟨297159362677, 2, [(2, 2), (3, 2), (11, 1), (461, 1), (1627771, 1)]⟩,
   ⟨29047611873442575647497758179, 2,
     [(2, 1), (293, 1), (305873, 1), (545358713, 1), (297159362677, 1)]⟩,
   ⟨341948486974166000522343609283189, 2,
     [(2, 2), (3, 3), (109, 1), (29047611873442575647497758179, 1)]⟩,
   ⟨groupOrder, 7, [
      (2, 6), (3, 1), (149, 1), (631, 1), (107361793816595537, 1), (174723607534414371449, 1),
      (341948486974166000522343609283189, 1)]⟩,
   ⟨13331831, 13, [(2, 1), (5, 1), (971, 1), (1373, 1)]⟩,
   ⟨173378833005251801, 6, [(2, 3), (5, 2), (2621, 1), (24809, 1), (13331831, 1)]⟩,
   ⟨22149492674086928081353, 5, [(2, 3), (3, 1), (5323, 1), (173378833005251801, 1)]⟩,
   ⟨132896956044521568488119, 6, [(2, 1), (3, 1), (22149492674086928081353, 1)]⟩,
   ⟨1206781, 10, [(2, 2), (3, 1), (5, 1), (20113, 1)]⟩,
   ⟨7240687, 3, [(2, 1), (3, 1), (1206781, 1)]⟩,
   ⟨107590001, 3, [(2, 4), (5, 4), (7, 1), (29, 1), (53, 1)]⟩,
   ⟨255515944373312847190720520512484175977, 3, [
      (2, 3), (7, 2), (11, 1), (1627, 1), (2657, 1), (4423, 1), (41201, 1), (96557, 1),
      (7240687, 1), (107590001, 1)]⟩,
   ⟨205115282021455665897114700593932402728804164701536103180137503955397371, 10, [
      (2, 1), (3, 1), (5, 1), (29, 2), (31, 1), (7723, 1), (132896956044521568488119, 1),
      (255515944373312847190720520512484175977, 1)]⟩,
   ⟨fieldModulus, 3, [
      (2, 1), (3, 1), (7, 1), (13441, 1),
      (205115282021455665897114700593932402728804164701536103180137503955397371, 1)]⟩]

theorem allPass_certificates : LucasCertificate.allPass smallPrimes certificates = true := by
  decide +kernel

theorem prime_of_certificate {c : LucasCertificate} (h : c ∈ certificates) : c.number.Prime :=
  LucasCertificate.primes_of_allPass prime_of_mem_smallPrimes allPass_certificates c h

theorem groupOrder_prime : groupOrder.Prime :=
  prime_of_certificate (List.getElem_mem (show 9 < certificates.length by decide))

theorem fieldModulus_prime : fieldModulus.Prime :=
  prime_of_certificate (List.getElem_mem (show 19 < certificates.length by decide))

instance : Fact fieldModulus.Prime := ⟨fieldModulus_prime⟩

instance : Fact groupOrder.Prime := ⟨groupOrder_prime⟩

theorem two_lt_fieldModulus : 2 < fieldModulus := by
  decide

theorem residue_curveConstant : Field.residue curveConstant = 7 := by
  rw [show curveConstant = Fin.ofNat fieldModulus 7 from rfl, Field.residue_ofNat,
    Nat.cast_ofNat]

theorem discriminant_ne_zero : 432 * Field.residue curveConstant ^ 2 ≠ 0 := by
  rw [residue_curveConstant]
  intro h
  have hdvd : fieldModulus ∣ 432 * 7 ^ 2 := by
    rw [← ZMod.natCast_eq_zero_iff]
    push_cast
    exact h
  exact absurd hdvd (by decide)

theorem base_onCurve : base.OnCurve curveConstant := by
  decide

theorem groupOrder_mul_base : base.mul groupOrder = .infinity := by
  decide +kernel

abbrev Group : Type := (shortCurve (Field.residue curveConstant)).Point

theorem groupOrder_nsmul {A : Group} (hA : base.Denotes curveConstant A) :
    groupOrder • A = 0 := by
  have hmul := hA.mul two_lt_fieldModulus groupOrder
  rw [groupOrder_mul_base] at hmul
  exact hmul.unique .infinity

/-- The multiples of the base point are points of the curve, and only those of multiples of the
group order are the point at infinity. -/
theorem mul_base (k : Nat) : (base.mul k).OnCurve curveConstant ∧
    (base.mul k = .infinity → groupOrder ∣ k) := by
  obtain ⟨A, hA⟩ := Point.exists_denotes discriminant_ne_zero base_onCurve
  have hmul := hA.mul two_lt_fieldModulus k
  refine ⟨hmul.onCurve, ?_⟩
  intro hinfinity
  rw [hinfinity] at hmul
  have hzero : k • A = 0 := hmul.unique .infinity
  have hne : A ≠ 0 := by
    rintro rfl
    cases hA
  rw [← addOrderOf_eq_prime (groupOrder_nsmul hA) hne]
  exact addOrderOf_dvd_of_nsmul_eq_zero hzero

theorem exists_coordinates {k : Scalar} (hk : k ≠ 0) :
    ∃ x y, base.mul k.val = .affine x y ∧ (Point.affine x y).OnCurve curveConstant := by
  obtain ⟨honCurve, hdvd⟩ := mul_base k.val
  cases hpoint : base.mul k.val with
  | infinity =>
    have hzero : k.val = 0 := Nat.eq_zero_of_dvd_of_lt (hdvd hpoint) k.isLt
    exact absurd (Fin.ext hzero) hk
  | affine x y =>
    rw [hpoint] at honCurve
    exact ⟨x, y, rfl, honCurve⟩

end Secp256k1

theorem Octets.toNatBE_ofNatBE {v : Nat} (h : v < Nat.pow 256 n) :
    (Octets.ofNatBE n v).toNatBE = v := by
  change Bytes.toNatBE (Bytes.ofNatBE n v) = v
  rw [Bytes.toNatBE_ofNatBE, Nat.mod_eq_of_lt h]

theorem Field.ofNat?_toNatBE {p : Nat} (hp : p ≤ Nat.pow 256 n) (a : Fin p) :
    Field.ofNat? p (Octets.ofNatBE n a.val).toNatBE = some a := by
  rw [Octets.toNatBE_ofNatBE (a.isLt.trans_le hp)]
  exact dif_pos a.isLt

namespace Secp256k1

theorem pointOf?_affine {x y : Coordinate} (h : (Point.affine x y).OnCurve curveConstant) :
    pointOf? (Octets.ofNatBE 32 x.val) (Octets.ofNatBE 32 y.val) = some (.affine x y) := by
  have hp : fieldModulus ≤ Nat.pow 256 32 := by
    decide
  simp only [pointOf?, Field.ofNat?_toNatBE hp, if_pos h]

theorem scalarOf?_ofNatBE {k : Scalar} (hk : k ≠ 0) :
    scalarOf? (Octets.ofNatBE 32 k.val) = some k := by
  have hn : groupOrder ≤ Nat.pow 256 32 := by
    decide
  simp only [scalarOf?, Field.ofNat?_toNatBE hn, if_neg hk]

end Secp256k1

end RedactableLedger
