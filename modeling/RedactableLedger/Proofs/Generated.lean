import RedactableLedger.Proofs.Collision
import RedactableLedger.Proofs.Curve.Secp256k1
import RedactableLedger.Proofs.Lifecycle.Prepare

namespace RedactableLedger

namespace Draws

theorem exists_of_firstFit {fits : α → Option β} {as rest : List α} {b : β}
    (h : firstFit fits as = some (b, rest)) :
    ∃ a, fits a = some b := by
  induction as with
  | nil => cases h
  | cons a as ih =>
    rw [firstFit] at h
    split at h
    · rename_i hfits
      cases h
      exact ⟨a, hfits⟩
    · exact ih h

/-- What holds of the spent value and of what candidates are taken for holds of what is
drawn. -/
theorem drawn_fromShared (P : α → Prop) {fits : Candidate → Option α} {spent : α}
    (hspent : P spent) (hfits : ∀ c a, fits c = some a → P a) (d : Draws) :
    P (fromShared fits spent d).1 := by
  rw [fromShared]
  split
  · rename_i hfirst
    obtain ⟨c, hc⟩ := exists_of_firstFit hfirst
    exact hfits c _ hc
  · exact hspent

theorem nonzeroScalar_ne_zero (d : Draws) : (nonzeroScalar d).1 ≠ 0 := by
  apply drawn_fromShared (· ≠ 0)
  · decide
  · intro c k hk
    obtain ⟨_, hne⟩ := Option.filter_eq_some_iff.1 hk
    simpa using hne

theorem point_fits (d : Draws) :
    (point d).1.OnCurve Bn254.curveConstant ∧ (point d).1 ≠ .infinity := by
  apply drawn_fromShared fun a : Bn254.GroupPoint =>
    a.OnCurve Bn254.curveConstant ∧ a ≠ .infinity
  · exact ⟨Bn254.generator_onCurve, by decide⟩
  · intro c a ha
    cases c with
    | scalar bytes => cases ha
    | abscissa bytes =>
      obtain ⟨x, _, hpoint⟩ := Option.bind_eq_some_iff.1 ha
      refine ⟨Bn254.pointOver?_onCurve hpoint, ?_⟩
      obtain ⟨y, _, rfl⟩ := Option.map_eq_some_iff.1 hpoint
      intro he
      cases he

theorem secret_ne_zero (d : Draws) : (secret d).1 ≠ 0 := by
  rw [secret]
  split
  · rename_i k rest hfirst
    obtain ⟨bytes, hbytes⟩ := exists_of_firstFit hfirst
    rw [Secp256k1.scalarOf?] at hbytes
    split at hbytes
    · split at hbytes
      · cases hbytes
      · rename_i hne
        cases hbytes
        exact hne
    · cases hbytes
  · have hone : (1 : Secp256k1.Scalar) ≠ 0 := by
      decide
    exact hone

end Draws

/-- The public key of a nonzero secret is read back from its coordinates. -/
theorem PublicKey.isReadable_ofSecret {k : Secp256k1.Scalar} (hk : k ≠ 0) :
    (ofSecret k).IsReadable := by
  obtain ⟨x, y, hpoint, honCurve⟩ := Secp256k1.exists_coordinates hk
  rw [IsReadable, ofSecret, hpoint]
  exact Secp256k1.pointOf?_affine honCurve

theorem PublicKey.ofFields_coordinates {key : PublicKey} (h : key.IsReadable) :
    ofFields key.coordinates.1.toHex key.coordinates.2.toHex = .ok key := by
  apply bind_eq_ok.2 ⟨_, decodeField_toHex _ "X", _⟩
  apply bind_eq_ok.2 ⟨_, decodeField_toHex _ "Y", _⟩
  rw [IsReadable] at h
  rw [h]
  rfl

def PrivateKey.IsDrawn (key : PrivateKey) : Prop := key.secret ≠ 0

/-- Parameters that can be drawn: those of a generator on the curve and a trapdoor that is not
zero. -/
def ChameleonParams.IsDrawn (params : ChameleonParams) : Prop :=
  ∃ g tk, g.OnCurve Bn254.curveConstant ∧ g ≠ .infinity ∧ tk ≠ 0 ∧ params = ofTrapdoor g tk

namespace PrivateKey

theorem isDrawn_generate (d : Draws) : (generate.run d).1.IsDrawn := Draws.secret_ne_zero d

theorem IsDrawn.isReadable {key : PrivateKey} (h : key.IsDrawn) : key.publicKey.IsReadable := by
  rw [key.publicKey_eq]
  exact PublicKey.isReadable_ofSecret h

theorem IsDrawn.ofFields {key : PrivateKey} (h : key.IsDrawn) :
    ofFields key.publicKey.coordinates.1.toHex key.publicKey.coordinates.2.toHex
      (Octets.ofNatBE 32 key.secret.val).toHex = .ok key := by
  obtain ⟨secret, publicKey, rfl⟩ := key
  apply bind_eq_ok.2 ⟨_, PublicKey.ofFields_coordinates h.isReadable, _⟩
  apply bind_eq_ok.2 ⟨_, decodeField_toHex _ "D", _⟩
  rw [Secp256k1.scalarOf?_ofNatBE h]
  exact if_pos rfl

end PrivateKey

namespace ChameleonParams

theorem isDrawn_generate (d : Draws) : (generate.run d).1.IsDrawn := by
  have htk := Draws.nonzeroScalar_ne_zero d
  obtain ⟨honCurve, hne⟩ := Draws.point_fits (Draws.nonzeroScalar d).2
  exact ⟨_, _, honCurve, hne, htk, rfl⟩

/-- Drawn parameters decode, with a trapdoor that is not zero and whose multiple of the
generator is the hash key. -/
theorem IsDrawn.decode {params : ChameleonParams} (h : params.IsDrawn) :
    ∃ d tk, params.decode = .ok d ∧ d.tk = some tk ∧ tk ≠ 0 ∧ Bn254.smul tk d.g = d.hk := by
  obtain ⟨g, tk, honCurve, hne, htk, rfl⟩ := h
  exact ⟨_, tk, decode_ofTrapdoor honCurve hne tk, rfl, htk, rfl⟩

theorem IsDrawn.ofFields {params : ChameleonParams} (h : params.IsDrawn) :
    ofFields params.toFields = .ok params := by
  obtain ⟨d, _, hdecode, _⟩ := h.decode
  exact ofFields_toFields hdecode

end ChameleonParams

end RedactableLedger
