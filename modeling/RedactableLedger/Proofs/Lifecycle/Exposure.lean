import Mathlib.Tactic.FieldSimp
import RedactableLedger.Proofs.Lifecycle.Guard

namespace RedactableLedger

open Bn254 (encodeScalar)

/-- The trapdoor that leads from the check string of one content to that of another. -/
def ChameleonParams.trapdoorOf (m m' r r' : Bn254.Scalar) : Bn254.Scalar :=
  (m - m') * Field.inv (r' - r)

/-- The trapdoor that a record was redacted with, as it is found from the record before, the new
data and the new check string. -/
def Transaction.exposedTrapdoor? (before : Transaction) (newData : Bytes) (cs : CheckString) :
    Option Bn254.Scalar := do
  let old ← before.checkString
  let r ← old.decode.toOption
  let r' ← cs.decode.toOption
  return ChameleonParams.trapdoorOf before.contentScalar
    (before.replay newData cs).contentScalar r r'

/-- The trapdoor as it is found from two broadcasts, that of a record and that of the update
which redacts it. -/
def Frame.exposedTrapdoor? (before update : Frame) : Option Bn254.Scalar := do
  let tx ← (Layout.transaction.read before.payload).toOption
  let u ← (Layout.transaction.read update.payload).toOption
  match u.body with
  | .update _ cs newData _ => tx.exposedTrapdoor? newData cs
  | _ => none

variable {hash target : TxHash} {tx t u seen announced : Transaction} {P : ChameleonParams}
  {d : ChameleonParams.Decoded} {cs : CheckString} {data newData : Bytes} {issuer : Digest}
  {m m' r tk : Bn254.Scalar} {old new : Digest} {l : Ledger} {o : Occurrence}

namespace ChameleonParams

theorem collisionScalar_ne (htk : tk ≠ 0) (hm : m ≠ m') : collisionScalar tk r m m' ≠ r := by
  intro hsame
  have htk' : Field.residue tk ≠ 0 := fun h0 => htk (Field.residue_eq_zero.1 h0)
  have hm' : Field.residue m - Field.residue m' ≠ 0 :=
    fun h0 => hm (Field.residue_injective (sub_eq_zero.1 h0))
  have hresidue := congrArg Field.residue hsame
  rw [residue_collisionScalar, add_eq_left] at hresidue
  exact mul_ne_zero hm' (inv_ne_zero htk') hresidue

theorem residue_trapdoor (htk : tk ≠ 0) (hm : m ≠ m') :
    Field.residue tk = (Field.residue m - Field.residue m') *
      (Field.residue (collisionScalar tk r m m') - Field.residue r)⁻¹ := by
  have htk' : Field.residue tk ≠ 0 := fun h0 => htk (Field.residue_eq_zero.1 h0)
  have hm' : Field.residue m - Field.residue m' ≠ 0 :=
    fun h0 => hm (Field.residue_injective (sub_eq_zero.1 h0))
  rw [residue_collisionScalar, add_sub_cancel_left]
  field_simp

theorem trapdoorOf_collisionScalar (htk : tk ≠ 0) (hm : m ≠ m') :
    trapdoorOf m m' r (collisionScalar tk r m m') = tk := by
  apply Field.residue_injective
  rw [trapdoorOf, Field.residue_mul, Field.residue_inv Bn254.two_lt_groupOrder,
    Field.residue_sub, Field.residue_sub, ← residue_trapdoor htk hm]

theorem collide_exposes (hd : P.decode = .ok d) (htk : d.tk = some tk) (hne : tk ≠ 0)
    (hr : cs.decode = .ok r) (hm : messageScalar old ≠ messageScalar new) :
    ∃ cs' r', P.collide cs old new = .ok cs' ∧ cs'.decode = .ok r' ∧ cs' ≠ cs ∧ r' ≠ r ∧
      Field.residue tk =
        (Field.residue (messageScalar old) - Field.residue (messageScalar new)) *
        (Field.residue r' - Field.residue r)⁻¹ := by
  have hcollide : P.collide cs old new =
      .ok (.ofScalar (collisionScalar tk r (messageScalar old) (messageScalar new))) :=
    collide_eq_ok.2 ⟨d, tk, r, hd, htk, hne, hr, rfl⟩
  have hscalar := collisionScalar_ne (r := r) hne hm
  refine ⟨_, _, hcollide, CheckString.decode_ofScalar _, ?_, hscalar, residue_trapdoor hne hm⟩
  rintro rfl
  rw [CheckString.decode_ofScalar] at hr
  exact hscalar (Except.ok.inj hr)

end ChameleonParams

namespace Transaction

theorem contentHash_replay (tx : Transaction) (data : Bytes) (cs : CheckString) :
    (tx.replay data cs).contentHash = contentHash { tx with data } := by
  -- the content does not hold the check string
  have terms : SameTerms (tx.replay data cs) { tx with data } := ⟨rfl, rfl, rfl⟩
  exact terms.contentHash rfl

theorem exposedTrapdoor?_eq {old cs : CheckString} {r r' : Bn254.Scalar}
    (hold : tx.checkString = some old) (hr : old.decode = .ok r) (hr' : cs.decode = .ok r') :
    tx.exposedTrapdoor? data cs =
      some (ChameleonParams.trapdoorOf tx.contentScalar
        (tx.replay data cs).contentScalar r r') := by
  rw [exposedTrapdoor?, hold, Option.bind_eq_bind, Option.bind_some, hr, hr']
  rfl

/-- A redaction that changes the content scalar exposes the trapdoor of its parameters. -/
theorem Redacts.exposes (h : tx.Redacts hash data P cs t)
    (hm : tx.contentScalar ≠ t.contentScalar) :
    ∃ tk, P.tk = some (encodeScalar tk) ∧ tx.exposedTrapdoor? data cs = some tk := by
  obtain ⟨old, hold, hcollide⟩ := h.collides
  obtain ⟨d, tk, r, hd, htk, hne, hr, hcs⟩ := ChameleonParams.collide_eq_ok.1 hcollide
  have hr' : cs.decode =
      .ok (ChameleonParams.collisionScalar tk r tx.contentScalar t.contentScalar) := by
    rw [hcs]
    exact CheckString.decode_ofScalar _
  have hresult : tx.replay data cs = t := h.result.symm
  refine ⟨tk, ?_, ?_⟩
  · rw [ChameleonParams.trapdoor_of_decode hd, htk, Option.map_some]
  · rw [exposedTrapdoor?_eq hold hr hr', hresult,
      ChameleonParams.trapdoorOf_collisionScalar hne hm]

theorem Signs.exposedTrapdoor? (h : tx.Signs seen) (newData : Bytes) (cs : CheckString) :
    seen.exposedTrapdoor? newData cs = tx.exposedTrapdoor? newData cs := by
  have hreplay : (tx.replay newData cs).Signs (seen.replay newData cs) :=
    ⟨⟨h.terms.header, h.terms.fee, h.terms.body⟩, rfl, rfl⟩
  rw [Transaction.exposedTrapdoor?, Transaction.exposedTrapdoor?, h.checkString,
    h.contentScalar, hreplay.contentScalar]

end Transaction

theorem Frame.exposedTrapdoor?_frame (htx : tx.Fits) (hu : u.Fits)
    (hbody : u.body = .update target cs newData issuer) :
    exposedTrapdoor? tx.frame u.frame = tx.exposedTrapdoor? newData cs := by
  rw [exposedTrapdoor?, Transaction.frame, Transaction.frame]
  simp only [Layout.exact_transaction.read_encode htx, Layout.exact_transaction.read_encode hu,
    Except.toOption, Option.bind_eq_bind, Option.bind_some, hbody]

namespace Ledger

/-- The check strings before and after a collision differ if the contents do, and the trapdoor
is the difference of the contents divided by theirs. One function finds it from a record that is
redacted with its content changed, the new data and the new check string, and from the
broadcasts of the record and of the announcement. -/
theorem trapdoor_exposed :
    (∀ (P : ChameleonParams) (d : ChameleonParams.Decoded) (tk r : Bn254.Scalar)
      (cs : CheckString) (old new : Digest), P.decode = .ok d → d.tk = some tk → tk ≠ 0 →
        cs.decode = .ok r → messageScalar old ≠ messageScalar new →
      ∃ cs' r', P.collide cs old new = .ok cs' ∧ cs'.decode = .ok r' ∧ cs' ≠ cs ∧ r' ≠ r ∧
        Field.residue tk =
          (Field.residue (messageScalar old) - Field.residue (messageScalar new)) *
            (Field.residue r' - Field.residue r)⁻¹) ∧
    (∀ (tx t : Transaction) (hash : TxHash) (data : Bytes) (P : ChameleonParams)
      (cs : CheckString), tx.redact hash data P = .ok (cs, t) →
        tx.contentScalar ≠ t.contentScalar →
      ∃ tk, P.tk = some (encodeScalar tk) ∧ tx.exposedTrapdoor? data cs = some tk) ∧
    ∀ (l : Ledger) (o : Occurrence) (hash target : TxHash) (tx u : Transaction)
      (P : ChameleonParams) (cs : CheckString)
      (newData : Bytes) (issuer : Digest), l.deed o = .staged hash ⟨u, some P⟩ →
      u.body = .update target cs newData issuer → l.store.get target = .ok (some tx) →
      tx.contentScalar ≠ (tx.replay newData cs).contentScalar →
      ∃ tk, P.tk = some (encodeScalar tk) ∧ tx.exposedTrapdoor? newData cs = some tk ∧
        (u.Fits → ∀ seen announced : Transaction, tx.Signs seen → u.Signs announced →
          Frame.exposedTrapdoor? seen.frame announced.frame = some tk) := by
  refine ⟨?_, ?_, ?_⟩
  · intro P d tk r cs old new hd htk hne hr hm
    exact ChameleonParams.collide_exposes hd htk hne hr hm
  · intro tx t hash data P cs hredact hm
    exact (Transaction.redacts_of_redact hredact).exposes hm
  · intro l o hash target tx u P cs newData issuer hdeed hbody hget hm
    obtain ⟨old, hold, hredacts, _⟩ := store_of_announcement hdeed hbody
    cases hget.symm.trans hold
    obtain ⟨tk, htk, hexposed⟩ := hredacts.exposes hm
    refine ⟨tk, htk, hexposed, fun hu seen announced hseen hannounced => ?_⟩
    have hseenFits := hseen.fits (Store.fits_of_get hget)
    have hbody' : announced.body = .update target cs newData issuer :=
      hannounced.terms.body.trans hbody
    rw [Frame.exposedTrapdoor?_frame hseenFits (hannounced.fits hu) hbody',
      hseen.exposedTrapdoor?, hexposed]

theorem contentHash_revisedTransferTx :
    Transaction.contentHash { baseTransferTx with data := Bytes.ofText "b" } =
      .ofNatBE 32 0xbe009a650f50e555214d6470f215f016ab7c27c53bac176ef496442732d1db5e := by
  rw [baseTransferTx, digest_baseKey, Transaction.contentHash, sha3_eq]
  decide +kernel

theorem contentScalar_revisedTransferTx (cs : CheckString) :
    baseTransferTx.contentScalar ≠
      (baseTransferTx.replay (Bytes.ofText "b") cs).contentScalar := by
  rw [Transaction.contentScalar, Transaction.contentScalar, Transaction.contentHash_replay,
    digests_baseTransferTx.1, contentHash_revisedTransferTx]
  decide

/-- The announcement that the data of the transfer was replaced by other data gives the trapdoor
five away. -/
theorem baseTransfer_exposed : ∃ h hash u cs,
    transferred.deed
      (.operation (.prepare (.updateData (updateRequest h baseKey smallParams 1 "b" "")))) =
      .staged hash ⟨u, some smallParams⟩ ∧
    baseTransferTx.exposedTrapdoor? (Bytes.ofText "b") cs = some 5 ∧
    Frame.exposedTrapdoor? baseTransferTx.frame u.frame = some 5 := by
  obtain ⟨h, hget, hid, _⟩ := get_transferred
  have hredactable : baseTransferTx.IsRedactable := ⟨rfl, _, rfl⟩
  obtain ⟨cs, redacted, hredacts⟩ :=
    hredactable.redacts hid decode_small rfl (by decide) (Bytes.ofText "b")
  have hone : (1 : UInt64) ≠ 0 := by
    decide
  obtain ⟨hash, hdeed⟩ := deed_of_update baseKey_isReadable decode_small hone
    (outcome_of_amend hget (Transaction.redact_of_redacts hredacts)) ""
  have hfits : (Transaction.unsigned 0 1 (Bytes.ofText "")
      (some (.ofScalar transferred.nextScalar))
      (.update h cs (Bytes.ofText "b") baseKey.address.digest)).Fits :=
    ⟨show Layout.Fits (Bytes.ofText "") by
      decide, show Layout.Fits (Bytes.ofText "b") by decide⟩
  obtain ⟨tk, htk, hexposed, hframes⟩ :=
    trapdoor_exposed.2.2 transferred _ hash h baseTransferTx _ smallParams cs
    (Bytes.ofText "b") _ hdeed rfl hget (contentScalar_revisedTransferTx cs)
  have hfive : tk = 5 := by
    have hdecoded := congrArg Bn254.decodeScalar (Option.some.inj htk)
    rw [Bn254.decodeScalar_encodeScalar, Bn254.decodeScalar_encodeScalar] at hdecoded
    exact (Except.ok.inj hdecoded).symm
  rw [hfive] at hexposed hframes
  exact ⟨h, hash, _, cs, hdeed, hexposed, hframes hfits _ _ (.refl _) (.refl _)⟩

end Ledger

end RedactableLedger
