import RedactableLedger.Proofs.Lifecycle.Announce
import RedactableLedger.Proofs.Lifecycle.Atomic
import RedactableLedger.Proofs.Lifecycle.Validate

namespace RedactableLedger

open RedactableLedger.Action

theorem Store.fails_load (s : Store) (hash : TxHash) :
    (s.load hash).Fails Fault.IsNoRefusal := by
  rw [load]
  split
  · exact .error (by rintro ⟨⟩)
  · exact .error (by rintro ⟨⟩)
  · exact .ok _

theorem Transaction.fails_id_some (tx : Transaction) (params : ChameleonParams) :
    (tx.id (some params)).Fails Fault.IsNoRefusal := by
  unfold id
  cases tx.checkString with
  | none => exact .ok _
  | some cs => exact .mapError (by rintro _ ⟨⟩)

theorem ChameleonParams.fails_collide (params : ChameleonParams) (cs : CheckString)
    (old new : Digest) :
    (params.collide cs old new).Fails Fault.IsNoRefusal := by
  refine Outcome.Fails.bind (.mapError (by rintro _ ⟨⟩)) fun d _ => ?_
  split
  · exact .error (by rintro ⟨⟩)
  · split
    · exact .error (by rintro ⟨⟩)
    · exact Outcome.Fails.bind (.mapError (by rintro _ ⟨⟩)) fun _ _ => .ok _

/-- What a redaction refuses: a record of the wrong kind, or parameters of another record. -/
theorem Transaction.refusal_of_redact {tx : Transaction} {hash : TxHash} {data : Bytes}
    {v : Refusal} (h : tx.redact hash data params = .error (.validation v)) :
    v = .foreignParameters ∨ v = .notRedactable tx.kind := by
  have hmono : ∀ e : Fault, e.IsNoRefusal → ∀ v, e = .validation v →
      v = .foreignParameters ∨ v = .notRedactable tx.kind := by
    rintro e he v rfl
    exact absurd he (Fault.not_isNoRefusal v)
  have hfails : (tx.redact hash data params).Fails fun e => ∀ v, e = .validation v →
      v = .foreignParameters ∨ v = .notRedactable tx.kind := by
    rw [redact]
    split
    · refine Outcome.Fails.bind (fun e he => hmono e (fails_id_some tx params e he))
        fun h _ => ?_
      dsimp only
      split
      · refine .error ?_
        rintro v ⟨⟩
        exact .inl rfl
      · split
        · exact .error (by rintro _ ⟨⟩)
        · refine Outcome.Fails.bind
            (fun e he => hmono e (ChameleonParams.fails_collide _ _ _ _ e he)) fun cs _ => ?_
          refine Outcome.Fails.bind (fun e he => hmono e (fails_id_some _ params e he))
            fun h' _ => ?_
          split
          · exact .error (by rintro _ ⟨⟩)
          · exact .ok _
    · refine .error ?_
      rintro v ⟨⟩
      exact .inr rfl
  exact hfails _ h v rfl

namespace Ledger

variable {l l' : Ledger} {v : Refusal}

/-- The ledger after something was required differs in its workspace alone. -/
theorem state_of_require (name : String) (a : Action Workspace (Option α)) (l : Ledger) :
    ((require name a).exec l).2 = { l with workspace := (a.exec l.workspace).2 } := by
  have hin : (inWorkspace a).exec l =
      ((a.exec l.workspace).1, { l with workspace := (a.exec l.workspace).2 }) := rfl
  rw [require, exec_bind, hin]
  cases (a.exec l.workspace).1 with
  | error e => rfl
  | ok found => cases found <;> rfl

theorem exec_require_none {a : Action Workspace (Option α)} {w : Workspace} (name : String)
    (h : a.exec l.workspace = (.ok none, w)) :
    (require name a).exec l = (.error (.missing name), { l with workspace := w }) := by
  have hin : (inWorkspace a).exec l = (.ok none, { l with workspace := w }) := by
    rw [inWorkspace, exec_on, h]
  rw [require, exec_bind_ok hin]
  rfl

section

variable {a : TransferFunds} (hvalid : a.validate = .ok ()) (hnamed : a.target ≠ "")
  (hblank : Text.isBlankText a.target = true)

include hvalid hnamed hblank

/-- A transfer to a target that is all blanks is refused once its source was resolved. -/
theorem exec_of_blank_target
    (hsource : (require "from" (resolvePublicKey a.source)).exec l = (.ok key, l')) :
    (Preparation.transferFunds a).run.exec l = (.error (.missing "to"), l') := by
  rw [Preparation.run, Preparation.draft, draftTransfer, hvalid]
  refine exec_bind_error ((exec_bind_ok (exec_lift _ _)).trans ?_)
  refine (exec_bind_ok hsource).trans (exec_bind_error ?_)
  rw [transferTarget, if_neg hnamed]
  exact exec_bind_error (exec_require_none _ (exec_resolvePublicKey_blank hblank _))

/-- The key of the source was created by then if its file was missing. -/
theorem creates_before_refusal (hnew : l.workspace.Creates a.source) :
    ∃ l', (Preparation.transferFunds a).run.exec l = (.error (.missing "to"), l') ∧
      l'.workspace.files.contains (Text.trim a.source) = true := by
  obtain ⟨key, w, hkey, hcontains⟩ := exists_resolvePublicKey hnew
  exact ⟨_, exec_of_blank_target hvalid hnamed hblank (exec_require "from" hkey), hcontains⟩

theorem late_of_blank_target
    (h : (Preparation.transferFunds a).run.exec l = (.error (.validation v), l')) :
    v = .missing "to" ∧ l' =
      { l with workspace := ((resolvePublicKey a.source).exec l.workspace).2 } := by
  have hafter := state_of_require "from" (resolvePublicKey a.source) l
  obtain ⟨o, l₁, hsource⟩ : ∃ o l₁, (require "from" (resolvePublicKey a.source)).exec l =
    (o, l₁) := ⟨_, _, rfl⟩
  rw [hsource] at hafter
  cases o with
  | error e =>
    have hrun : (Preparation.transferFunds a).run.exec l = (.error e, l₁) := by
      rw [Preparation.run, Preparation.draft, draftTransfer, hvalid]
      exact exec_bind_error ((exec_bind_ok (exec_lift _ _)).trans (exec_bind_error hsource))
    rw [hrun] at h
    cases h
    exact absurd hsource (fails_require_key "from"
      (TransferFunds.isChecked_of_validate hvalid).source).not_refused
  | ok key =>
    rw [exec_of_blank_target hvalid hnamed hblank hsource] at h
    cases h
    exact ⟨rfl, hafter⟩

end

theorem load_of_refused {hash : TxHash} {data : Bytes} {params : ChameleonParams}
    (h : (redact hash data params).exec l = (.error (.validation v), l')) :
    ∃ tx, l.store.load hash = .ok tx ∧
      (v = .foreignParameters ∨ v = .notRedactable tx.kind) := by
  have herror : l.store.load hash >>= (fun tx => tx.redact hash data params) =
      .error (.validation v) :=
    exec_amend_error.1 (congrArg Prod.fst h)
  cases hload : l.store.load hash with
  | error e =>
    rw [hload] at herror
    cases herror
    exact absurd rfl (Store.fails_load l.store hash _ hload)
  | ok tx =>
    rw [hload] at herror
    exact ⟨tx, rfl, Transaction.refusal_of_redact herror⟩

theorem exec_update_eq_error {request : Preparation} {a : UpdateData}
    (hrequest : request.update? = some a) :
    request.run.exec l = (.error e, l') ↔ (redactTarget a).exec l = (.error e, l') := by
  have hrun : ∀ e l', (redactTarget a).exec l = (.error e, l') →
      request.run.exec l = (.error e, l') := by
    intro e l' hredact
    rw [Preparation.run, draft_of_update hrequest, draftUpdate_eq]
    exact exec_bind_error (exec_bind_error hredact)
  constructor
  · intro h
    have hok := isOk_of_update hrequest l
    obtain ⟨o, l₁, hredact⟩ : ∃ o l₁, (redactTarget a).exec l = (o, l₁) := ⟨_, _, rfl⟩
    rw [h, hredact] at hok
    cases o with
    | ok r => cases hok
    | error e₁ =>
      rw [hrun e₁ l₁ hredact] at h
      cases h
      exact hredact
  · exact hrun e l'

/-- An update of a record that is not redactable is refused once its issuer and its parameters
were resolved; the key of the issuer was created by then if its file was missing. -/
theorem creates_before_guard {request : Preparation} {a : UpdateData}
    (hrequest : request.update? = some a) (hvalid : a.validate = .ok ())
    (htarget : txHashOfHex (Text.trim a.txHash) = .ok target)
    (hload : l.store.load target = .ok tx) (hkind : tx.kind.isRedactable = false)
    (hnew : l.workspace.Creates a.issuer)
    (hparams : ∀ w, ∃ params w', (resolveParams a.params).exec w = (.ok (some params), w')) :
    ∃ l', request.run.exec l = (.error (.validation (.notRedactable tx.kind)), l') ∧
      l'.workspace.files.contains (Text.trim a.issuer) = true := by
  obtain ⟨key, w, hkey, hcontains⟩ := exists_resolvePublicKey hnew
  obtain ⟨params, w', hparams⟩ := hparams w
  have hgrows := grows_resolveParams a.params w w (.refl _)
  rw [hparams] at hgrows
  have hguard : tx.redact target (Bytes.ofText a.newData) params =
      .error (.validation (.notRedactable tx.kind)) := by
    rw [Transaction.redact, hkind]
  have hrefused :
      ((redact target (Bytes.ofText a.newData) params).exec { l with workspace := w' }).1 =
        .error (.validation (.notRedactable tx.kind)) := by
    rw [redact, exec_amend_error, hload]
    exact hguard
  refine ⟨((redact target (Bytes.ofText a.newData) params).exec { l with workspace := w' }).2,
    ?_, ?_⟩
  · rw [exec_update_eq_error hrequest, redactTarget, hvalid, htarget]
    refine (exec_bind_ok (exec_lift _ _)).trans ((exec_bind_ok (exec_lift _ _)).trans ?_)
    refine (exec_bind_ok (exec_require "txIssuer" hkey)).trans ?_
    refine (exec_bind_ok (exec_require "ch_params" hparams)).trans ?_
    exact exec_bind_error (Prod.ext hrefused rfl)
  · rw [keeps_workspace_redact]
    exact Files.Extends.contains hgrows hcontains

/-- An update that passes its check is refused only for its target, after its issuer and its
parameters were resolved. -/
theorem late_of_update {a : UpdateData} (hvalid : a.validate = .ok ())
    (h : (redactTarget a).exec l = (.error (.validation v), l')) :
    ∃ target tx, txHashOfHex (Text.trim a.txHash) = .ok target ∧ l.store.load target = .ok tx ∧
      (v = .foreignParameters ∨ v = .notRedactable tx.kind) ∧
      (l.workspace.Finds a.issuer → l.workspace.Finds a.params →
        l'.workspace = l.workspace) := by
  obtain ⟨_, _, hrest⟩ := bind_eq_ok.1 hvalid
  obtain ⟨_, hissuer, hrest⟩ := bind_eq_ok.1 hrest
  obtain ⟨_, hparams, _⟩ := bind_eq_ok.1 hrest
  rw [requireText_eq_ok] at hissuer hparams
  rw [redactTarget, hvalid, exec_bind_ok (exec_lift _ _)] at h
  -- the hash, the issuer and the parameters fail without a refusal, so it was the redaction
  -- that refused
  rcases exec_bind_eq_error.1 h with h | ⟨target, l₀, htarget, h⟩
  · exact absurd h (Fails.lift (.mapError (by rintro _ ⟨⟩))).not_refused
  cases htarget' : txHashOfHex (Text.trim a.txHash) with
  | error e =>
    rw [htarget'] at htarget
    cases htarget
  | ok found =>
    rw [htarget'] at htarget
    cases htarget
    have hissued := state_of_require "txIssuer" (resolvePublicKey a.issuer) l
    rcases exec_bind_eq_error.1 h with h | ⟨issuer, l₁, hexec, h⟩
    · exact absurd h (fails_require_key _ hissuer).not_refused
    rw [hexec] at hissued
    have hfound := state_of_require "ch_params" (resolveParams a.params) l₁
    rcases exec_bind_eq_error.1 h with h | ⟨params, l₂, hexec, h⟩
    · exact absurd h (fails_require_params _ hparams).not_refused
    rw [hexec] at hfound
    rcases exec_bind_eq_error.1 h with h | ⟨cs, l₃, hexec, h⟩
    · obtain ⟨tx, hload, hguard⟩ := load_of_refused h
      have hworkspace := keeps_workspace_redact target (Bytes.ofText a.newData) params l₂
      rw [h] at hworkspace
      dsimp only at hissued hfound hworkspace
      subst hissued hfound
      refine ⟨target, tx, rfl, hload, hguard, fun hissuer hparams => ?_⟩
      rw [hworkspace]
      dsimp only
      rw [exec_resolvePublicKey_found hissuer, exec_resolveParams_found hparams]
    · cases h

/-- The refusals that come after keys and parameters were resolved, where a file that is missing
was created. -/
inductive RefusesLate (l : Ledger) : Preparation → Refusal → Prop
  | target {a : TransferFunds} (hnamed : a.target ≠ "")
      (hblank : Text.isBlankText a.target = true)
      (hmissing : ¬l.workspace.Finds a.source) :
        RefusesLate l (.transferFunds a) (.missing "to")
  /-- The target of an update is of the wrong kind or has other parameters. -/
  | redaction {request : Preparation} {v : Refusal} (hrequest : request.update? = some a)
      (htarget : txHashOfHex (Text.trim a.txHash) = .ok target)
      (hload : l.store.load target = .ok tx)
      (hguard : v = .foreignParameters ∨ v = .notRedactable tx.kind)
      (hmissing : ¬(l.workspace.Finds a.issuer ∧ l.workspace.Finds a.params)) :
        RefusesLate l request v

/-- The store is as it was and no file is changed, and unless the refusal came late nothing was
created or drawn. -/
structure Spares (l l' : Ledger) (late : Prop) : Prop where
  store : l'.store = l.store
  files : l.workspace.files.Extends l'.workspace.files
  workspace : l'.workspace = l.workspace ∨ late

theorem late_of_prepare {request : Preparation}
    (h : request.run.exec l = (.error (.validation v), l')) :
    l'.workspace = l.workspace ∨ l.RefusesLate request v := by
  cases hvalid : request.validate with
  | error e =>
    rw [exec_of_invalid hvalid] at h
    cases h
    exact .inl rfl
  | ok _ =>
    have hnever : Fails request.draft Fault.IsNoRefusal → l'.workspace = l.workspace ∨
        l.RefusesLate request v :=
      fun hfails => absurd h (fails_run hfails).not_refused
    have hupdate : ∀ a, request.update? = some a → a.validate = .ok () →
        l'.workspace = l.workspace ∨ l.RefusesLate request v := by
      intro a hrequest hchecked
      obtain ⟨target, tx, htarget, hload, hguard, hfound⟩ :=
        late_of_update hchecked ((exec_update_eq_error hrequest).1 h)
      by_cases hmissing : l.workspace.Finds a.issuer ∧ l.workspace.Finds a.params
      · exact .inl (hfound hmissing.1 hmissing.2)
      · exact .inr (.redaction hrequest htarget hload hguard hmissing)
    cases request with
    | createAccount a => exact hnever (fails_account hvalid)
    | addAccount a => exact hnever (fails_addAccount hvalid)
    | changeConfig a => exact hnever (fails_config hvalid)
    | setStaking a => exact hnever (fails_staking hvalid)
    | updateData a => exact hupdate a rfl hvalid
    | deleteData a => exact hupdate a.asUpdate rfl hvalid
    | transferFunds a =>
      by_cases htarget : a.target = "" ∨ Text.isBlankText a.target = false
      · exact hnever (fails_transfer hvalid htarget)
      · rw [not_or, Bool.not_eq_false] at htarget
        obtain ⟨rfl, rfl⟩ := late_of_blank_target hvalid htarget.1 htarget.2 h
        by_cases hmissing : l.workspace.Finds a.source
        · exact .inl (exec_resolvePublicKey_found hmissing)
        · exact .inr (.target htarget.1 htarget.2 hmissing)

theorem spares_of_prepare {request : Preparation}
    (h : request.run.exec l = (.error (.validation v), l')) :
    l.Spares l' (l.RefusesLate request v) where
  store := store_of_prepare_error h
  files := by
    have hextends := (stable_extends l.workspace).prepare request l (.refl _)
    rw [h] at hextends
    exact hextends
  workspace := late_of_prepare h

end Ledger

end RedactableLedger
