import RedactableLedger.Proofs.Lifecycle.Slots
import RedactableLedger.Proofs.Lifecycle.Submit

namespace RedactableLedger

open RedactableLedger.Action

def TxBody.WellFormed : TxBody → Prop
  | accountCreation _ _ params => (∃ d, params.decode = .ok d) ∧ params.tk = none
  | fundsTransfer amount _ _ _ => 1 ≤ amount
  | config option _ _ => 1 ≤ option ∧ option ≤ 5
  | stake isStaking _ commitment => IsCommitment isStaking commitment
  | update .. => True

theorem one_le_of_ne_zero {n : UInt64} (h : n ≠ 0) : 1 ≤ n := by
  rw [UInt64.le_iff_toNat_le]
  exact Nat.one_le_iff_ne_zero.2 fun hzero => h (UInt64.toNat_inj.1 hzero)

theorem ConfigOption.bounds_of_ofId? {n : UInt8} (h : ofId? n = some option) :
    1 ≤ n ∧ n ≤ 5 := by
  have hid : option.id = n := by simpa using List.find?_some h
  rw [← hid]
  cases option <;> decide

namespace Transaction

/-- What holds of every record and of every transaction that is broadcast. -/
structure WellFormed (tx : Transaction) : Prop where
  fee : 1 ≤ tx.fee
  present : tx.checkString.isSome = tx.kind.isRedactable
  canonical : ∀ cs ∈ tx.checkString, ∃ r, cs = .ofScalar r
  plain : tx.kind.isRedactable = false → tx.data = []
  slot : tx.kind ≠ .fundsTransfer → tx.sig2 = .empty
  body : tx.body.WellFormed

/-- A transaction that has no check string is found under the hash of its content. -/
def Keyed (tx : Transaction) (hash : TxHash) : Prop :=
  tx.kind.isRedactable = false → hash = tx.contentHash

variable {tx record redacted : Transaction} {primary : Signature} {cosigner : Option Signature}
  {hash : TxHash} {data : Bytes} {params : ChameleonParams} {cs : CheckString}

theorem WellFormed.attach (h : tx.WellFormed)
    (hattach : tx.attach primary cosigner = .ok record) :
    record.WellFormed := by
  rw [Transaction.attach] at hattach
  split at hattach
  · cases hattach
  · cases hattach
    refine ⟨h.fee, h.present, h.canonical, h.plain, fun hkind => ?_, h.body⟩
    have htakes : tx.kind.takesCosigner = false := by
      cases hk : tx.kind with
      | fundsTransfer => exact absurd hk hkind
      | _ => rfl
    dsimp only
    rw [htakes]
    exact h.slot hkind

theorem Redacts.checkString (h : tx.Redacts hash data params cs redacted) :
    ∃ r, cs = .ofScalar r := by
  obtain ⟨old, _, hcollide⟩ := h.collides
  obtain ⟨_, _, _, _, _, _, _, hcs⟩ := ChameleonParams.collide_eq_ok.1 hcollide
  exact ⟨_, hcs⟩

theorem WellFormed.redact (h : tx.WellFormed)
    (hredacts : tx.Redacts hash data params cs redacted) :
    redacted.WellFormed := by
  have hcs := hredacts.checkString
  have hkind : tx.kind.isRedactable = true := hredacts.redactable
  rw [hredacts.result]
  refine ⟨h.fee, hkind.symm, fun other hother => ?_, fun hplain => ?_, h.slot, h.body⟩
  · cases hother
    exact hcs
  · exact absurd (hkind.symm.trans hplain) Bool.noConfusion

theorem Keyed.sign (h : tx.Keyed hash) (hsigns : tx.Signs record) : record.Keyed hash := by
  intro hkind
  rw [hsigns.terms.kind] at hkind
  rw [hsigns.terms.contentHash hsigns.data]
  exact h hkind

theorem Keyed.redact (hredacts : tx.Redacts hash data params cs redacted) (other : TxHash) :
    redacted.Keyed other := by
  intro hkind
  rw [hredacts.terms.kind, hredacts.redactable] at hkind
  cases hkind

/-- What was identified has its content hash for an identifier if it has no check string. -/
theorem Keyed.of_id {params : Option ChameleonParams} (hid : tx.id params = .ok hash)
    (h : tx.WellFormed) :
    tx.Keyed hash := by
  intro hkind
  have hnone : tx.checkString = none := by
    rw [← Option.isNone_iff_eq_none, ← Option.isSome_eq_false_iff, h.present, hkind]
  simp only [Transaction.id, hnone] at hid
  cases hid
  rfl

theorem wellFormed_unsigned_redactable {header : UInt8} {fee : UInt64} {body : TxBody}
    (hfee : fee ≠ 0) (hadmits : params.Admits cs) (hkind : body.kind.isRedactable = true)
    (hbody : body.WellFormed) :
    (unsigned header fee data (some cs) body).WellFormed := by
  obtain ⟨r, hr⟩ := hadmits.checkString
  refine ⟨one_le_of_ne_zero hfee, hkind.symm, fun other hother => ?_, fun hplain => ?_,
    fun _ => rfl, hbody⟩
  · cases hother
    exact ⟨r, (CheckString.ofScalar_of_decode hr).symm⟩
  · exact absurd (hkind.symm.trans hplain) Bool.noConfusion

theorem wellFormed_unsigned_plain {header : UInt8} {fee : UInt64} {body : TxBody}
    (hfee : fee ≠ 0) (hkind : body.kind.isRedactable = false) (hbody : body.WellFormed) :
    (unsigned header fee [] none body).WellFormed :=
  ⟨one_le_of_ne_zero hfee, hkind.symm, fun _ h => absurd h (Option.not_mem_none _),
    fun _ => rfl, fun _ => rfl, hbody⟩

end Transaction

theorem Preparation.Drafts.wellFormed {request : Preparation} {draft : Draft}
    (h : request.Drafts draft) :
    draft.tx.WellFormed := by
  cases h with
  | account hfee hadmits htk =>
    exact Transaction.wellFormed_unsigned_redactable hfee hadmits rfl ⟨hadmits.params, htk⟩
  | address hfee hadmits htk =>
    exact Transaction.wellFormed_unsigned_redactable hfee hadmits rfl ⟨hadmits.params, htk⟩
  | transfer hfee hamount hadmits =>
    exact Transaction.wellFormed_unsigned_redactable hfee hadmits rfl
      (one_le_of_ne_zero hamount)
  | config hfee hoption =>
    exact Transaction.wellFormed_unsigned_plain hfee rfl (ConfigOption.bounds_of_ofId? hoption)
  | staking hfee hcommitment => exact Transaction.wellFormed_unsigned_plain hfee rfl hcommitment
  | update _ hfee _ hadmits =>
    exact Transaction.wellFormed_unsigned_redactable hfee hadmits rfl trivial

namespace Store

variable {s s' : Store} {hash other : TxHash} {tx record : Transaction}

/-- A record is well-formed, has the key that it must have, and its kind is indexed. -/
structure Holds (s : Store) (hash : TxHash) (tx : Transaction) : Prop where
  get : s.get hash = .ok (some tx)
  kindOf : s.kindOf hash = .ok (some tx.kind)
  wellFormed : tx.WellFormed
  keyed : tx.Keyed hash

/-- A store in which every hash has nothing or a record as it must be. -/
def Sound (s : Store) : Prop :=
  ∀ hash, (s.get hash = .ok none ∧ s.kindOf hash = .ok none) ∨ ∃ tx, s.Holds hash tx

theorem sound_empty : Sound .empty := fun _ => .inl ⟨rfl, rfl⟩

theorem Sound.holds (h : s.Sound) (hget : s.get hash = .ok (some tx)) : s.Holds hash tx := by
  obtain ⟨hnone, _⟩ | ⟨record, hholds⟩ := h hash
  · rw [hget] at hnone
    cases hnone
  · have hsame := hholds.get
    rw [hget] at hsame
    cases hsame
    exact hholds

theorem Sound.put (h : s.Sound) (hash : TxHash) (hfits : tx.Fits) (hwell : tx.WellFormed)
    (hkeyed : tx.Keyed hash) :
    (s.put hash tx).Sound := by
  intro other
  by_cases ho : other = hash
  · subst ho
    exact .inr ⟨tx, s.get_put_self other hfits, s.kindOf_put_self other tx, hwell, hkeyed⟩
  · obtain ⟨hget, hkind⟩ | ⟨record, hrecord⟩ := h other
    · refine .inl ⟨?_, ?_⟩
      · rw [s.get_put_of_ne ho, hget]
      · rw [s.kindOf_put_of_ne ho, hkind]
    · refine .inr ⟨record, ?_, ?_, hrecord.wellFormed, hrecord.keyed⟩
      · rw [s.get_put_of_ne ho, hrecord.get]
      · rw [s.kindOf_put_of_ne ho, hrecord.kindOf]

end Store

variable {s s' : Store} {l : Ledger} {o : Occurrence}

theorem Redaction.Replaces.sound {r : Redaction} (h : r.Replaces s cs s') (hs : s.Sound)
    (hfits : Layout.Fits r.data) : s'.Sound := by
  obtain ⟨tx, redacted, hload, hredacts, rfl⟩ := h
  have hget := Store.load_eq_ok.1 hload
  exact hs.put _ (hredacts.fits (Store.fits_of_get hget) hfits)
    ((hs.holds hget).wellFormed.redact hredacts)
    (.redact hredacts _)

namespace Ledger

theorem fits_of_deedOfSigning (hash : TxHash) (r : Outcome Transaction) :
    (deedOfSigning hash r).Fits := by
  cases r <;> trivial

theorem fits_of_deedOfRedaction {r : Redaction} (h : Layout.Fits r.data)
    (r' : Outcome CheckString) :
    (deedOfRedaction r r').Fits := by
  cases r' with
  | ok cs => exact h
  | error e => trivial

/-- What an occurrence puts into records fits if what is asked for does. -/
theorem fits_of_deed (hfits : o.Fits) : (l.deed o).Fits := by
  cases o with
  | supply draws => trivial
  | linkFault fault => trivial
  | operation op =>
    cases op with
    | prepare request =>
      cases hd : l.deed (.operation (.prepare request)) with
      | staged hash draft =>
        obtain ⟨_, ho, hdrafts⟩ := request_of_deed hd
        cases ho
        exact hdrafts.fits hfits
      | redacted r =>
        rw [deed] at hd
        generalize (request.draft.exec l).1 = drafted at hd
        generalize (request.run.exec l).1 = prepared at hd
        cases drafted <;> cases prepared <;> cases hd
      | _ => trivial
    | submit hash => trivial
    | attach hash primary cosigner => exact fits_of_deedOfSigning ..
    | sign hash key cosigner => exact fits_of_deedOfSigning ..
    | attachAndSubmit hash primary cosigner => exact fits_of_deedOfSigning ..
    | redact hash data params =>
      have hdata : Layout.Fits data := hfits
      exact fits_of_deedOfRedaction (r := ⟨hash, data, params⟩) hdata _
    | delete hash params =>
      have hdata : Layout.Fits [] := by decide
      exact fits_of_deedOfRedaction (r := ⟨hash, [], params⟩) hdata _

theorem sound_of_after (hs : l.store.Sound) (hfits : o.Fits) : (l.after o).store.Sound := by
  have heffect := effect_of_deed l o
  have hdeed : (l.deed o).Fits := fits_of_deed hfits
  generalize hd : l.deed o = d at heffect hdeed
  generalize (l.after o).store = s' at heffect
  cases heffect with
  | nothing => exact hs
  | signed _ hsigns =>
    -- that a record was signed does not bound its second slot: the signatures given do
    obtain ⟨tx, primary, cosigner, hload, hattach⟩ := attach_of_deed hd
    have hget := Store.load_eq_ok.1 hload
    have hholds := hs.holds hget
    have hsigns := Transaction.signs_of_attach hattach
    exact hs.put _ (hsigns.fits (Store.fits_of_get hget)) (hholds.wellFormed.attach hattach)
      (hholds.keyed.sign hsigns)
  | redacted hreplaces => exact hreplaces.sound hs hdeed
  | staged hid _ _ =>
    obtain ⟨request, _, hdrafts⟩ := request_of_deed hd
    exact hs.put _ hdeed hdrafts.wellFormed (.of_id hid hdrafts.wellFormed)
  | announced hid _ hr hbody hreplaces =>
    obtain ⟨request, _, hdrafts⟩ := request_of_deed hd
    have hdata := hdeed.2
    rw [hbody] at hdata
    exact (hreplaces.sound hs hdata).put _ hdeed hdrafts.wellFormed
      (.of_id hid hdrafts.wellFormed)

end Ledger

end RedactableLedger
