import RedactableLedger.Proofs.Lifecycle.Identity
import RedactableLedger.Proofs.Redaction

namespace RedactableLedger

variable {hash : TxHash} {tx t signed redacted : Transaction} {P Q R : ChameleonParams}
  {p q : ChameleonParams.Decoded} {cs : CheckString} {r tk : Bn254.Scalar}
  {a : Bn254.GroupPoint} {data : Bytes} {d : Deed} {l : Ledger}

/-- What a redaction under parameters `Q` with a given trapdoor makes of a record that was
identified under parameters `P`, which stand for given group elements. -/
structure Transaction.Moves (tx t : Transaction) (hash : TxHash) (Q P : ChameleonParams)
    (p : ChameleonParams.Decoded) (tk : Bn254.Scalar) : Prop where
  id : t.id (some Q) = .ok hash
  own : P.sanitized = Q.sanitized → t.id (some P) = .ok hash
  kept : t.contentScalar = tx.contentScalar ∨ Bn254.smul tk p.g = p.hk →
    t.id (some P) = .ok hash
  lost : ¬ (t.contentScalar = tx.contentScalar ∨ Bn254.smul tk p.g = p.hk) →
    ∃ a a', Bn254.encodePoint a' ≠ Bn254.encodePoint a ∧ hash = Transaction.idOfPoint a ∧
      t.id (some P) = .ok (Transaction.idOfPoint a')

theorem Transaction.Redacts.moves (h : tx.Redacts hash data Q cs redacted)
    (hq : Q.decode = .ok q) (htk : q.tk = some tk) (hp : P.decode = .ok p)
    (hid : tx.id (some P) = .ok hash) :
    tx.Moves redacted hash Q P p tk := by
  obtain ⟨a, ha, he⟩ := h.isRedactable.commitsTo hid
  obtain ⟨a', ha', hiff⟩ := h.commitsTo hq htk hp ha
  have hown := fun hpublic => Transaction.id_public hp hpublic h.id_after
  refine ⟨h.id_after, hown, fun hkept => ?_, fun hlost => ⟨a, a', ?_, he, ha'.id⟩⟩
  · rw [ha'.id, hiff.2 hkept, he]
  · intro hencode
    exact hlost (hiff.1 (Bn254.encodePoint_injective ha'.onCurve ha.onCurve hencode))

theorem Transaction.Moves.of_signs (h : signed.Moves t hash Q P p tk)
    (hsigns : tx.Signs signed) :
    tx.Moves t hash Q P p tk := by
  have hm := hsigns.contentScalar
  refine ⟨h.id, h.own, fun hkept => h.kept ?_, fun hlost => h.lost ?_⟩
  · rw [hm]
    exact hkept
  · rw [hm]
    exact hlost

/-- A deed neither redacts the record of a hash nor stages it anew. -/
structure Deed.Spares (d : Deed) (hash : TxHash) : Prop where
  fits : d.Fits
  staged : hash ∉ d.staged?
  payload : d.payload? hash = none

theorem Deed.Rewrites.signs (h : d.Rewrites hash tx t) (hspares : d.Spares hash) :
    tx.Signs t := by
  cases h with
  | kept => exact .refl tx
  | signed _ hsigns => exact hsigns
  | redacted hr ht =>
    have hpayload := hspares.payload
    rw [Deed.payload?_of_redaction hr ht] at hpayload
    cases hpayload
  | staged hd => exact absurd (by rw [hd]; rfl) hspares.staged

namespace Ledger

theorem signs_of_run (os : List Occurrence) (hget : l.store.get hash = .ok (some tx))
    (hspares : ∀ d ∈ l.deeds os, d.Spares hash) :
    ∃ t, (l.afterAll os).store.get hash = .ok (some t) ∧ tx.Signs t := by
  refine record_of_run (motive := tx.Signs) os hget
    (fun d hd => (hspares d hd).fits) ?_ (.refl tx)
  intro d hd a b hrewrites ha
  exact ha.trans (hrewrites.signs (hspares d hd))

/-- A redactable record is redacted just if the parameters reproduce its hash and have an
invertible trapdoor. -/
theorem redact_iff (data : Bytes) (Q : ChameleonParams)
    (hget : l.store.get hash = .ok (some tx)) (h : tx.IsRedactable) :
    (∃ cs, ((redact hash data Q).exec l).1 = .ok cs) ↔
      tx.id (some Q) = .ok hash ∧ ∃ q tk, Q.decode = .ok q ∧ q.tk = some tk ∧ tk ≠ 0 := by
  constructor
  · rintro ⟨cs, hcs⟩
    obtain ⟨old, redacted, hload, hredacts, _⟩ := replaces_of_redact (Prod.ext hcs rfl)
    cases hget.symm.trans (Store.load_eq_ok.1 hload)
    exact ⟨hredacts.id_before, hredacts.trapdoor⟩
  · rintro ⟨hid, q, tk, hq, htk, hne⟩
    obtain ⟨cs, redacted, hredacts⟩ := h.redacts hid hq htk hne data
    exact ⟨cs, outcome_of_amend hget (Transaction.redact_of_redacts hredacts)⟩

theorem record_of_redact (hget : l.store.get hash = .ok (some tx)) (hdata : Layout.Fits data)
    (hcs : ((redact hash data Q).exec l).1 = .ok cs) :
    ∃ t, (l.after (.operation (.redact hash data Q))).store.get hash = .ok (some t) ∧
      tx.Redacts hash data Q cs t := by
  have hreplaces := replaces_of_redact (Prod.ext hcs rfl)
  simp only [after, Operation.run, Action.exec_map]
  exact hreplaces.record hget hdata

/-- A redactable record that was staged under some parameters and not redacted since is redacted
under exactly the parameters that reproduce its hash and have an invertible trapdoor. It keeps
the hash under its own parameters if the trapdoor is theirs or the content is still hashed as
the same scalar, and else commits to another point. -/
theorem redacted_under_guard (l : Ledger) (o : Occurrence) (os : List Occurrence) (data : Bytes)
    (Q : ChameleonParams) (hdeed : l.deed o = .staged hash ⟨tx, some R⟩) (hfits : tx.Fits)
    (hredactable : tx.IsRedactable) (hp : P.decode = .ok p)
    (hpublic : P.sanitized = R.sanitized) (hspares : ∀ d ∈ (l.after o).deeds os, d.Spares hash)
    (hdata : Layout.Fits data) :
    ((∃ cs, ((redact hash data Q).exec ((l.after o).afterAll os)).1 = .ok cs) ↔
      tx.id (some Q) = .ok hash ∧ ∃ q tk, Q.decode = .ok q ∧ q.tk = some tk ∧ tk ≠ 0) ∧
    ∀ cs q tk, ((redact hash data Q).exec ((l.after o).afterAll os)).1 = .ok cs →
      Q.decode = .ok q →
      q.tk = some tk → ∃ t,
        (((l.after o).afterAll os).after (.operation (.redact hash data Q))).store.get hash =
          .ok (some t) ∧
        tx.Moves t hash Q P p tk := by
  obtain ⟨hget, hid, _⟩ := staged_of_deed hdeed hfits
  have hidP := Transaction.id_public hp hpublic hid
  obtain ⟨s, hgets, hsigns⟩ := signs_of_run os hget hspares
  constructor
  · rw [redact_iff data Q hgets (hsigns.isRedactable hredactable), hsigns.id]
  · intro cs q tk hcs hq htk
    obtain ⟨t, hgett, hredacts⟩ := record_of_redact hgets hdata hcs
    exact ⟨t, hgett, (hredacts.moves hq htk hp ((hsigns.id _).trans hidP)).of_signs hsigns⟩

/-- Without the trapdoor of a record, and whatever the trapdoor that is wished for, parameters
with it are found from what the record commits to, and they redact it. -/
theorem redacted_under_foreign (hget : l.store.get hash = .ok (some tx)) (h : tx.IsRedactable)
    (ha : tx.CommitsTo P a) (hid : tx.id (some P) = .ok hash) (hne : a ≠ .infinity)
    (hc : tx.checkString = some cs) (hr : cs.decode = .ok r) (htk : tk ≠ 0)
    (hsum : tx.contentScalar + r * tk ≠ 0) :
    ∃ g, ∀ data, ∃ cs, ((redact hash data (.ofTrapdoor g tk)).exec l).1 = .ok cs := by
  obtain ⟨g, hdecode, hforeign⟩ := ha.exists_foreign hne hc hr hsum
  refine ⟨g, fun data => (redact_iff data _ hget h).2 ⟨?_, _, tk, hdecode, rfl, htk⟩⟩
  rw [hforeign.id, ← ha.id, hid]

def zeroSupplied : Ledger := Ledger.empty.after (.supply ⟨[.scalar (.zero 32)], []⟩)

def zeroTransferTx : Transaction :=
  .unsigned 0 1 (Bytes.ofText "a") (some (.ofScalar 0))
    (.fundsTransfer 1 0 baseKey.address.digest baseKey.address.digest)

def otherParams : ChameleonParams := .ofTrapdoor (.affine 1 2) 7

theorem decode_otherParams :
    otherParams.decode = .ok ⟨.affine 1 2, Bn254.smul 7 (.affine 1 2), some 7⟩ :=
  ChameleonParams.decode_ofTrapdoor Bn254.generator_onCurve (by decide) 7

theorem zeroTransferTx_fits : zeroTransferTx.Fits := ⟨by decide, trivial⟩

theorem zeroTransferTx_isRedactable : zeroTransferTx.IsRedactable := ⟨rfl, _, rfl⟩

theorem nextScalar_zeroSupplied : zeroSupplied.nextScalar = 0 := by
  decide

theorem deed_of_zeroTransfer :
    ∃ hash, zeroSupplied.deed baseTransfer = .staged hash ⟨zeroTransferTx, some smallParams⟩ ∧
      zeroTransferTx.id (some otherParams) = .ok hash := by
  have hone : (1 : UInt64) ≠ 0 := by
    decide
  obtain ⟨hash, hdeed⟩ :=
    deed_of_transfer baseKey_isReadable baseKey_isReadable decode_small hone hone "a"
      zeroSupplied
  rw [nextScalar_zeroSupplied] at hdeed
  have hid := (staged_of_deed hdeed zeroTransferTx_fits).2.1
  exact ⟨hash, hdeed, Transaction.id_of_zero rfl decode_small decode_otherParams rfl hid⟩

/-- The other parameters redact the transfer and reproduce its hash afterwards. -/
theorem zero_redacted_under_guard : ∃ hash t,
    zeroSupplied.deed baseTransfer = .staged hash ⟨zeroTransferTx, some smallParams⟩ ∧
    ((zeroSupplied.after baseTransfer).after
      (.operation (.redact hash [98] otherParams))).store.get hash = .ok (some t) ∧
    t.id (some otherParams) = .ok hash := by
  obtain ⟨hash, hdeed, hid⟩ := deed_of_zeroTransfer
  obtain ⟨hiff, hmoves⟩ :=
    redacted_under_guard zeroSupplied baseTransfer [] [98] otherParams hdeed
    zeroTransferTx_fits zeroTransferTx_isRedactable decode_small rfl
      (fun d hd => absurd hd List.not_mem_nil)
    (by decide)
  rw [afterAll_nil] at hiff hmoves
  obtain ⟨cs, hcs⟩ := hiff.2 ⟨hid, _, 7, decode_otherParams, rfl, by decide⟩
  obtain ⟨t, hget, hmove⟩ := hmoves cs _ 7 hcs decode_otherParams rfl
  exact ⟨hash, t, hdeed, hget, hmove.id⟩

/-- A transfer that was staged under some parameters is redacted under parameters with another
hash key. -/
theorem other_parameters_redact : ∃ hash cs,
    zeroSupplied.deed baseTransfer = .staged hash ⟨zeroTransferTx, some smallParams⟩ ∧
    ((redact hash [98] otherParams).exec (zeroSupplied.after baseTransfer)).1 = .ok cs ∧
    otherParams.sanitized ≠ smallParams.sanitized := by
  obtain ⟨hash, hdeed, hid⟩ := deed_of_zeroTransfer
  have hget := (staged_of_deed hdeed zeroTransferTx_fits).1
  obtain ⟨cs, hcs⟩ := (redact_iff [98] otherParams hget zeroTransferTx_isRedactable).2
    ⟨hid, _, 7, decode_otherParams, rfl, by decide⟩
  refine ⟨hash, cs, hdeed, hcs, ?_⟩
  decide +kernel

end Ledger

end RedactableLedger
