import Mathlib.Tactic.Module
import RedactableLedger.Proofs.Curve.Encoding
import RedactableLedger.Proofs.Transaction

namespace RedactableLedger

open Bn254 (curveConstant)

theorem Point.eq_iff_of_denotes {p : Nat} [Modulus p] {b : Fin p} {a c : Point p}
    {A C : (shortCurve (Field.residue b)).Point} (ha : a.Denotes b A) (hc : c.Denotes b C) :
    a = c ↔ A = C := by
  constructor
  · rintro rfl
    exact ha.unique hc
  · rintro rfl
    exact ha.injective hc

theorem Bn254.two_lt_groupOrder : 2 < Bn254.groupOrder := by
  decide

/-- Moving the check string by the inverse of `t` times the difference of the contents makes up
for it just if `t` is the trapdoor. -/
theorem smul_add_smul_eq_iff {F G : Type} [Field F] [AddCommGroup G] [Module F G] {m m' r t : F}
    {A B : G} (ht : t ≠ 0) : m' • A + (r + (m - m') * t⁻¹) • B = m • A + r • B ↔
      m' = m ∨ t • A = B := by
  have hdiff : m' • A + (r + (m - m') * t⁻¹) • B - (m • A + r • B) =
      (m - m') • (t⁻¹ • B - A) := by
    module
  rw [← sub_eq_zero, hdiff, smul_eq_zero, sub_eq_zero, sub_eq_zero, inv_smul_eq_iff₀ ht]
  exact or_congr eq_comm eq_comm

namespace ChameleonParams

variable {params : ChameleonParams} {d : Decoded} {g : Bn254.GroupPoint}
  {m m' r r' tk : Bn254.Scalar}

structure Decoded.Denotes (d : Decoded) (G H : Bn254.Group) : Prop where
  g : d.g.Denotes curveConstant G
  hk : d.hk.Denotes curveConstant H

theorem exists_denotes_of_decodePoint {bytes : Octets 32} {name : String}
    (h : decodePoint bytes name = .ok g) : ∃ G, g.Denotes curveConstant G :=
  Point.exists_denotes Bn254.discriminant_ne_zero
    (Bn254.onCurve_of_decodePoint (mapError_eq_ok.1 h))

theorem exists_denotes_of_decode (h : params.decode = .ok d) : ∃ G H, d.Denotes G H := by
  obtain ⟨_, _, hg, _, hhk, _⟩ := decode_eq_ok.1 h
  obtain ⟨G, hG⟩ := exists_denotes_of_decodePoint hg
  obtain ⟨H, hH⟩ := exists_denotes_of_decodePoint hhk
  exact ⟨G, H, hG, hH⟩

theorem Decoded.Denotes.commit {G H : Bn254.Group} (h : d.Denotes G H) (m r : Bn254.Scalar) :
    (d.commit m r).Denotes curveConstant (Field.residue m • G + Field.residue r • H) :=
  (Bn254.denotes_smul h.g m).add Bn254.two_lt_fieldModulus (Bn254.denotes_smul h.hk r)

theorem commit_zero (h : params.decode = .ok d) (m : Bn254.Scalar) :
    d.commit m 0 = Bn254.smul m d.g := by
  obtain ⟨G, H, hd⟩ := exists_denotes_of_decode h
  rw [Point.eq_iff_of_denotes (hd.commit m 0) (Bn254.denotes_smul hd.g m), Field.residue_zero,
    zero_smul (ZMod Bn254.groupOrder) H, add_zero]

theorem smul_trapdoor (h : params.decode = .ok d) (htk : d.tk = some tk) :
    Bn254.smul tk d.g = d.hk := by
  obtain ⟨_, _, _, _, _, htrapdoor⟩ := decode_eq_ok.1 h
  obtain ⟨_, hnone⟩ | ⟨k, _, hmul, hsome⟩ := decodeTrapdoor_eq_ok.1 htrapdoor
  · cases htk.symm.trans hnone
  · cases htk.symm.trans hsome
    exact hmul

theorem residue_collisionScalar : Field.residue (collisionScalar tk r m m') =
    Field.residue r + (Field.residue m - Field.residue m') * (Field.residue tk)⁻¹ := by
  rw [collisionScalar, Field.residue_add, Field.residue_mul, Field.residue_sub,
    Field.residue_inv Bn254.two_lt_groupOrder]

/-- Finding collisions one after the other is finding the last one at once. -/
theorem collisionScalar_chain (tk r m m₁ m₂ : Bn254.Scalar) :
    collisionScalar tk (collisionScalar tk r m m₁) m₁ m₂ = collisionScalar tk r m m₂ := by
  apply Field.residue_injective
  rw [residue_collisionScalar, residue_collisionScalar, residue_collisionScalar]
  ring

/-- Under given parameters the collision of a trapdoor keeps the committed point just if the
trapdoor is theirs or the content hashes to the same scalar. -/
theorem commit_collisionScalar_eq_iff (h : params.decode = .ok d) (htk : tk ≠ 0) :
    d.commit m' (collisionScalar tk r m m') = d.commit m r ↔
      m' = m ∨ Bn254.smul tk d.g = d.hk := by
  obtain ⟨G, H, hd⟩ := exists_denotes_of_decode h
  have htk' : Field.residue tk ≠ 0 := fun h0 => htk (Field.residue_eq_zero.1 h0)
  rw [Point.eq_iff_of_denotes (hd.commit _ _) (hd.commit _ _), residue_collisionScalar,
    smul_add_smul_eq_iff htk', Field.residue_inj,
    ← Point.eq_iff_of_denotes (Bn254.denotes_smul hd.g tk) hd.hk]

theorem Decoded.Denotes.hk_ne_zero {G H : Bn254.Group} (hdenotes : d.Denotes G H)
    (h : params.decode = .ok d) (htk : d.tk = some tk) (hne : tk ≠ 0) : H ≠ 0 := by
  obtain ⟨_, _, _, hg, _⟩ := decode_eq_ok.1 h
  have hG : G ≠ 0 := by
    rintro rfl
    exact hg (hdenotes.g.injective .infinity)
  have htk' : Field.residue tk ≠ 0 := fun h0 => hne (Field.residue_eq_zero.1 h0)
  have hmul := Bn254.denotes_smul hdenotes.g tk
  rw [smul_trapdoor h htk] at hmul
  rw [hdenotes.hk.unique hmul]
  exact smul_ne_zero htk' hG

/-- Under an invertible trapdoor no content commits to a point under two check strings. -/
theorem commit_inj (h : params.decode = .ok d) (htk : d.tk = some tk) (hne : tk ≠ 0) :
    d.commit m r = d.commit m r' ↔ r = r' := by
  obtain ⟨G, H, hd⟩ := exists_denotes_of_decode h
  rw [Point.eq_iff_of_denotes (hd.commit m r) (hd.commit m r'), add_right_inj,
    smul_left_inj (hd.hk_ne_zero h htk hne), Field.residue_inj]

/-- Parameters of a generator on the curve and a trapdoor decode to these. -/
theorem decode_ofTrapdoor (hg : g.OnCurve curveConstant) (hne : g ≠ .infinity)
    (tk : Bn254.Scalar) :
    (ofTrapdoor g tk).decode = .ok ⟨g, Bn254.smul tk g, some tk⟩ := by
  obtain ⟨G, hG⟩ := Point.exists_denotes Bn254.discriminant_ne_zero hg
  have hhk := (Bn254.denotes_smul hG tk).onCurve
  refine decode_eq_ok.2 ⟨rfl, rfl, ?_, hne, ?_, ?_⟩
  · exact mapError_eq_ok.2 (Bn254.decodePoint_encodePoint hg)
  · exact mapError_eq_ok.2 (Bn254.decodePoint_encodePoint hhk)
  · exact bind_eq_ok.2 ⟨tk, mapError_eq_ok.2 (Bn254.decodeScalar_encodeScalar tk), if_pos rfl⟩

/-- Whatever the trapdoor, a committed point is committed to under parameters that have it, too,
unless they would have to be degenerate. -/
theorem exists_foreign (h : params.decode = .ok d) (hpoint : d.commit m r ≠ .infinity)
    (hsum : m + r * tk ≠ 0) :
    ∃ g, g.OnCurve curveConstant ∧ g ≠ .infinity ∧
      Decoded.commit ⟨g, Bn254.smul tk g, some tk⟩ m r = d.commit m r := by
  obtain ⟨G, H, hd⟩ := exists_denotes_of_decode h
  have hC := hd.commit m r
  generalize hc : d.commit m r = c at hC hpoint ⊢
  generalize Field.residue m • G + Field.residue r • H = C at hC
  have hg := Bn254.denotes_smul hC (Field.inv (m + r * tk))
  generalize Bn254.smul (Field.inv (m + r * tk)) c = g at hg
  have hs : Field.residue m + Field.residue r * Field.residue tk ≠ 0 := by
    rw [← Field.residue_mul, ← Field.residue_add]
    exact fun h0 => hsum (Field.residue_eq_zero.1 h0)
  -- the generator is the committed point divided by what its factor will be
  have hcommit : Decoded.commit ⟨g, Bn254.smul tk g, some tk⟩ m r = c := by
    have hd' : Decoded.Denotes ⟨g, Bn254.smul tk g, some tk⟩ _ _ :=
      ⟨hg, Bn254.denotes_smul hg tk⟩
    rw [Point.eq_iff_of_denotes (hd'.commit m r) hC, smul_smul (Field.residue r), ← add_smul,
      Field.residue_inv Bn254.two_lt_groupOrder, Field.residue_add, Field.residue_mul,
      smul_inv_smul₀ hs]
  refine ⟨g, hg.onCurve, ?_, hcommit⟩
  rintro rfl
  exact hpoint hcommit.symm

/-- Whatever the contents, a collision is found, and it is the one check string under which the
new content commits to the point that the old content commits to. -/
theorem collision_unique {cs : CheckString} (h : params.decode = .ok d) (htk : d.tk = some tk)
    (hne : tk ≠ 0) (hr : cs.decode = .ok r) (old new : Digest) :
    ∃ cs' r' hash, params.collide cs old new = .ok cs' ∧ cs'.decode = .ok r' ∧
      d.commit (messageScalar new) r' = d.commit (messageScalar old) r ∧
      params.hash cs old = .ok hash ∧ params.hash cs' new = .ok hash ∧
      ∀ other s, other.decode = .ok s →
        d.commit (messageScalar new) s = d.commit (messageScalar old) r →
        other = cs' := by
  let r' := collisionScalar tk r (messageScalar old) (messageScalar new)
  have hcollide : params.collide cs old new = .ok (.ofScalar r') :=
    collide_eq_ok.2 ⟨d, tk, r, h, htk, hne, hr, rfl⟩
  have hr' : (CheckString.ofScalar r').decode = .ok r' := CheckString.decode_ofScalar r'
  have hcommit : d.commit (messageScalar new) r' = d.commit (messageScalar old) r :=
    (commit_collisionScalar_eq_iff h hne).2 (.inr (smul_trapdoor h htk))
  refine ⟨_, r', _, hcollide, hr', hcommit, hash_eq_ok.2 ⟨d, r, h, hr, rfl⟩, ?_, ?_⟩
  · exact hash_eq_ok.2 ⟨d, r', h, hr', by rw [hcommit]⟩
  · intro other s hs hsame
    have hscalar : s = r' := (commit_inj h htk hne).1 (hsame.trans hcommit.symm)
    rw [← CheckString.ofScalar_of_decode hs, hscalar]

/-- Contents beyond the group order collide, too. -/
theorem collision_of_generator :
    Bn254.groupOrder ≤ (Octets.ofNatBE 32 (2 ^ 256 - 1)).toNatBE ∧
      (ofTrapdoor Bn254.generator 5).decode =
        .ok ⟨Bn254.generator, Bn254.smul 5 Bn254.generator, some 5⟩ ∧
      ∃ cs' hash,
        (ofTrapdoor Bn254.generator 5).collide (.ofScalar 7) (.ofNatBE 32 (2 ^ 256 - 1))
          (.zero 32) = .ok cs' ∧
        (ofTrapdoor Bn254.generator 5).hash (.ofScalar 7) (.ofNatBE 32 (2 ^ 256 - 1)) =
          .ok hash ∧
        (ofTrapdoor Bn254.generator 5).hash cs' (.zero 32) = .ok hash := by
  have hdecode := decode_ofTrapdoor Bn254.generator_onCurve (by decide) 5
  obtain ⟨cs', _, hash, hcollide, _, _, hold, hnew, _⟩ :=
    collision_unique hdecode rfl (by decide)
    (CheckString.decode_ofScalar 7) (.ofNatBE 32 (2 ^ 256 - 1)) (.zero 32)
  exact ⟨by decide, hdecode, cs', hash, hcollide, hold, hnew⟩

end ChameleonParams

end RedactableLedger
