import RedactableLedger.Proofs.Lifecycle.Draft

namespace RedactableLedger

open RedactableLedger.Action

/-- What an occurrence did to the records. -/
inductive Deed where
  | nothing
  | signed (hash : TxHash) (record : Transaction)
  | redacted (r : Redaction)
  | staged (hash : TxHash) (draft : Draft)

namespace Deed

def redaction? : Deed → Option Redaction
  | redacted r => some r
  | staged _ draft => draft.redaction?
  | _ => none

def staged? : Deed → Option TxHash
  | staged hash _ => some hash
  | _ => none

/-- The byte strings that a deed puts into records are short enough for their lengths to be
written. -/
def Fits : Deed → Prop
  | redacted r => Layout.Fits r.data
  | staged _ draft => draft.tx.Fits
  | _ => True

end Deed

namespace Ledger

def empty : Ledger := ⟨.empty, .empty, .empty, .fresh "" none⟩

def deedOfSigning (hash : TxHash) : Outcome Transaction → Deed
  | .ok record => .signed hash record
  | .error _ => .nothing

def deedOfRedaction (r : Redaction) : Outcome CheckString → Deed
  | .ok _ => .redacted r
  | .error _ => .nothing

def deedOfPreparation : Outcome Draft → Outcome Prepared → Deed
  | .ok draft, .ok prepared => .staged prepared.hash draft
  | _, _ => .nothing

def deed (l : Ledger) : Occurrence → Deed
  | .operation (.prepare request) =>
    deedOfPreparation (request.draft.exec l).1 (request.run.exec l).1
  | .operation (.attach hash primary cosigner) =>
    deedOfSigning hash ((attach hash primary cosigner).exec l).1
  | .operation (.sign hash key cosigner) =>
    deedOfSigning hash ((sign hash key cosigner).exec l).1
  | .operation (.submit _) => .nothing
  | .operation (.attachAndSubmit hash primary cosigner) =>
    deedOfSigning hash ((attach hash primary cosigner).exec l).1
  | .operation (.redact hash data params) =>
    deedOfRedaction ⟨hash, data, params⟩ ((redact hash data params).exec l).1
  | .operation (.delete hash params) =>
    deedOfRedaction ⟨hash, [], params⟩ ((delete hash params).exec l).1
  | .supply _ => .nothing
  | .linkFault _ => .nothing

def deeds (l : Ledger) : List Occurrence → List Deed
  | [] => []
  | o :: os => l.deed o :: (l.after o).deeds os

theorem afterAll_nil (l : Ledger) : l.afterAll [] = l := rfl

theorem afterAll_cons (l : Ledger) (o : Occurrence) (os : List Occurrence) :
    l.afterAll (o :: os) = (l.after o).afterAll os := rfl

end Ledger

/-- How a deed changes a store. -/
inductive Effect (s : Store) : Deed → Store → Prop
  | nothing : Effect s .nothing s
  | signed {hash : TxHash} (hload : s.load hash = .ok tx) (hsigns : tx.Signs record) :
      Effect s (.signed hash record) (s.put hash record)
  | redacted (hreplaces : r.Replaces s cs s') : Effect s (.redacted r) s'
  | staged {hash : TxHash} (hid : draft.tx.id draft.params = .ok hash)
      (hblank : draft.tx.IsBlank)
      (hr : draft.redaction? = none) : Effect s (.staged hash draft) (s.put hash draft.tx)
  | announced {hash : TxHash} (hid : draft.tx.id draft.params = .ok hash)
      (hblank : draft.tx.IsBlank)
      (hr : draft.redaction? = some r)
      (hbody : draft.tx.body = .update r.target cs r.data issuer)
      (hreplaces : r.Replaces s cs s') : Effect s (.staged hash draft) (s'.put hash draft.tx)

namespace Ledger

variable {r : Redaction} {cs : CheckString} {s s' : Store}

theorem keeps_send (tx : Transaction) : Keeps store (send tx) := by
  intro l
  rw [send, broadcast, exec_of]
  split <;> rfl

theorem keeps_submit (hash : TxHash) : Keeps store (submit hash) := by
  refine (Keeps.query _).bind fun tx => .ite ((Keeps.throw _).bind fun _ => ?_) ?_ <;>
  exact (keeps_send tx).bind fun _ => .pure _

theorem effect_of_signing {f : Transaction → Outcome (Transaction × Transaction)}
    (hash : TxHash) (hf : ∀ tx p, f tx = .ok p → tx.Signs p.2 ∧ p.1 = p.2) (l : Ledger) :
    Effect l.store (deedOfSigning hash ((amend hash f).exec l).1)
      ((amend hash f).exec l).2.store := by
  obtain ⟨o, l', h⟩ : ∃ o l', (amend hash f).exec l = (o, l') := ⟨_, _, rfl⟩
  rw [h]
  cases o with
  | error e =>
    rw [store_of_amend_error h]
    exact .nothing
  | ok record =>
    obtain ⟨tx, record', hload, hrecord, hstore⟩ := store_of_amend_ok h
    obtain ⟨hsigns, he⟩ := hf tx _ hrecord
    cases he
    rw [hstore]
    exact .signed hload hsigns

theorem effect_of_attach (hash : TxHash) (primary : Signature) (cosigner : Option Signature)
    (l : Ledger) :
    Effect l.store (deedOfSigning hash ((attach hash primary cosigner).exec l).1)
      ((attach hash primary cosigner).exec l).2.store := by
  refine effect_of_signing hash (fun tx p h => ?_) l
  obtain ⟨record, hattach, he⟩ := bind_eq_ok.1 h
  cases he
  exact ⟨Transaction.signs_of_attach hattach, rfl⟩

theorem effect_of_sign (hash : TxHash) (key : PrivateKey) (cosigner : Option PrivateKey)
    (l : Ledger) :
    Effect l.store (deedOfSigning hash ((sign hash key cosigner).exec l).1)
      ((sign hash key cosigner).exec l).2.store := by
  refine effect_of_signing hash (fun tx p h => ?_) l
  obtain ⟨record, hsign, he⟩ := bind_eq_ok.1 h
  obtain ⟨primary, second, hattach⟩ := Transaction.attach_of_sign hsign
  cases he
  exact ⟨Transaction.signs_of_attach hattach, rfl⟩

theorem effect_of_redact (hash : TxHash) (data : Bytes) (params : ChameleonParams)
    (l : Ledger) :
    Effect l.store (deedOfRedaction ⟨hash, data, params⟩ ((redact hash data params).exec l).1)
      ((redact hash data params).exec l).2.store := by
  obtain ⟨o, l', h⟩ : ∃ o l', (redact hash data params).exec l = (o, l') := ⟨_, _, rfl⟩
  rw [h]
  cases o with
  | error e =>
    rw [store_of_amend_error h]
    exact .nothing
  | ok cs => exact .redacted (replaces_of_redact h)

theorem exec_stage (draft : Draft) (l : Ledger) :
    (stage draft).exec l =
      match draft.tx.id draft.params with
      | .ok hash => (.ok ⟨hash, draft.tx⟩, { l with store := l.store.put hash draft.tx })
      | .error e => (.error e, l) := by
  rw [stage, exec_bind, exec_lift]
  cases draft.tx.id draft.params <;> rfl

theorem effect_of_preparation (request : Preparation) (l : Ledger) :
    Effect l.store (deedOfPreparation (request.draft.exec l).1 (request.run.exec l).1)
      (request.run.exec l).2.store := by
  obtain ⟨o, l', h⟩ : ∃ o l', request.draft.exec l = (o, l') := ⟨_, _, rfl⟩
  have hdrafted : Drafted l.store o l'.store := by
    have hd := drafts_draft request l
    rw [h] at hd
    exact hd
  rw [Preparation.run, exec_bind, h]
  generalize hs : l'.store = s' at hdrafted
  cases hdrafted with
  | failed =>
    rw [← hs]
    exact .nothing
  | plain hblank hr =>
    simp only [exec_stage]
    split
    · rename_i hid
      rw [hs]
      exact .staged hid hblank hr
    · rw [hs]
      exact .nothing
  | update hreplaces hown hdraft =>
    obtain ⟨d, hd⟩ := hreplaces.decode
    subst hdraft
    obtain ⟨hash, hid⟩ := Transaction.id_of_decode (.unsigned ..) rfl hd hown
    simp only [exec_stage]
    rw [hid, hs]
    exact .announced hid Transaction.isBlank_unsigned rfl rfl hreplaces

/-- Every occurrence changes the store as its deed does, and in no other way. -/
theorem effect_of_deed (l : Ledger) (o : Occurrence) :
    Effect l.store (l.deed o) (l.after o).store := by
  cases o with
  | supply draws => exact .nothing
  | linkFault fault => exact .nothing
  | operation op =>
    cases op with
    | prepare request =>
      simp only [after, Operation.run, exec_map]
      exact effect_of_preparation request l
    | attach hash primary cosigner =>
      simp only [after, Operation.run, exec_map]
      exact effect_of_attach hash primary cosigner l
    | sign hash key cosigner =>
      simp only [after, Operation.run, exec_map]
      exact effect_of_sign hash key cosigner l
    | submit hash =>
      simp only [after, Operation.run, exec_map, keeps_submit hash l]
      exact .nothing
    | attachAndSubmit hash primary cosigner =>
      have hkeeps : ∀ tx, Keeps store (do send tx; return tx) := fun tx =>
        (keeps_send tx).bind fun _ => .pure _
      simp only [after, Operation.run, exec_map, attachAndSubmit, Keeps.exec_bind hkeeps]
      exact effect_of_attach hash primary cosigner l
    | redact hash data params =>
      simp only [after, Operation.run, exec_map]
      exact effect_of_redact hash data params l
    | delete hash params =>
      simp only [after, Operation.run, exec_map]
      exact effect_of_redact hash [] params l

end Ledger

end RedactableLedger
