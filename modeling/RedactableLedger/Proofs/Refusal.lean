import RedactableLedger.Proofs.Lifecycle.Refusal
import RedactableLedger.Proofs.Material
import RedactableLedger.Proofs.Network.Answers

namespace RedactableLedger

open RedactableLedger.Action

theorem CheckAccount.length_of_validate {a : CheckAccount} (h : a.validate = .ok ())
    (hwallet : a.wallet = "") :
    a.address.utf8ByteSize = Address.hexLength := by
  rw [validate] at h
  split at h
  · cases h
  · split at h
    · cases h
    · rename_i hlength
      by_contra hne
      exact hlength ⟨hwallet, hne⟩

namespace Client

variable {c c' : Client} {v : Refusal}

theorem not_refused_of_ask {query : AccountQuery} (hbridge : c.bridge.RefusesNobody) :
    (ask query).exec c ≠ (.error (.validation v), c') := by
  intro h
  obtain ⟨_, hanswer⟩ := Bridge.refusesNobody_of_exchangeOne hbridge c.node c.timeout query
  exact hanswer _ (congrArg Prod.fst h) rfl

theorem refusesNobody_of_ask (hbridge : c.bridge.RefusesNobody) (query : AccountQuery) :
    ((ask query).exec c).2.bridge.RefusesNobody :=
  (Bridge.refusesNobody_of_exchangeOne hbridge c.node c.timeout query).1

theorem source_of_ask (query : AccountQuery) (c : Client) :
    ((ask query).exec c).2.source = c.source := rfl

/-- Looking an account up is refused by the source of its state, or not at all. -/
theorem source_of_refused {address : Address} (hbridge : c.bridge.RefusesNobody)
    (h : (getAccount address).exec c = (.error (.validation v), c')) :
    ∃ source, c.source = some source ∧ source address = .error (.validation v) := by
  rcases exec_bind_eq_error.1 h with h | ⟨found, c₁, hask, h⟩
  · exact absurd h (not_refused_of_ask hbridge)
  have hbridge₁ := refusesNobody_of_ask hbridge ⟨false, address.digest⟩
  have hsource₁ := source_of_ask ⟨false, address.digest⟩ c
  rw [hask] at hbridge₁ hsource₁
  cases found with
  | none => cases h
  | some account =>
    rcases exec_bind_eq_error.1 h with h | ⟨root, c₂, hask, h⟩
    · exact absurd h (not_refused_of_ask hbridge₁)
    have hsource₂ := source_of_ask ⟨true, address.digest⟩ c₁
    rw [hask] at hsource₂
    have hview := congrArg Prod.fst (exec_map_error h)
    rw [exec_query, hsource₂, hsource₁] at hview
    cases hsource : c.source with
    | none =>
      rw [hsource] at hview
      cases hview
    | some source =>
      rw [hsource] at hview
      refine ⟨source, rfl, ?_⟩
      cases hstate : source address with
      | error e =>
        simp only [viewOf, hstate] at hview
        cases hview
        rfl
      | ok state =>
        simp only [viewOf, hstate] at hview
        cases hview

theorem state_of_checkedAddress (a : CheckAccount) (l : Ledger) : ∃ w,
    ((checkedAddress a).exec l).2 = { l with workspace := w } ∧
      (l.workspace.Finds a.wallet → w = l.workspace) := by
  rw [checkedAddress]
  split
  · exact ⟨l.workspace, rfl, fun _ => rfl⟩
  · have hkeeps : ∀ key : PublicKey, Keeps id (pure key.address : Action Ledger Address) :=
      fun _ => .pure _
    have hafter :=
      Keeps.exec_bind (a := Ledger.require "wallet" (resolvePublicKey a.wallet)) hkeeps l
    refine ⟨((resolvePublicKey a.wallet).exec l.workspace).2, ?_, exec_resolvePublicKey_found⟩
    exact hafter.trans (Ledger.state_of_require ..)

/-- A wallet is refused only if it is all blanks, and then nothing was resolved. -/
theorem state_of_refused_address {a : CheckAccount} {l l' : Ledger}
    (hvalid : a.validate = .ok ())
    (h : (checkedAddress a).exec l = (.error (.validation v), l')) : l' = l := by
  rw [checkedAddress] at h
  split at h
  · exact absurd h
      (Fails.lift (Address.fails_ofHex (a.length_of_validate hvalid ‹_›))).not_refused
  · rcases exec_bind_eq_error.1 h with h | ⟨key, _, _, h⟩
    · cases hblank : Text.isBlankText a.wallet with
      | false => exact absurd h (Ledger.fails_require_key "wallet" hblank).not_refused
      | true =>
        rw [Ledger.exec_require_none "wallet" (exec_resolvePublicKey_blank hblank _)] at h
        cases h
        rfl
    · cases h

theorem exec_onLedger {a : Action Ledger α} {r : Outcome α}
    (h : (onLedger a).exec c = (r, c')) :
    ∃ l, a.exec c.ledger = (r, l) ∧ c' = { c with ledger := l } := by
  rw [onLedger, exec_on] at h
  obtain ⟨hr, hc⟩ := Prod.ext_iff.1 h
  exact ⟨(a.exec c.ledger).2, Prod.ext hr rfl, hc.symm⟩

theorem store_of_checkAccount (a : CheckAccount) (c : Client) :
    ((checkAccount a).exec c).2.ledger.store = c.ledger.store := by
  have hkeeps : Keeps Ledger.store (checkedAddress a) :=
    .ite (.lift _) ((Ledger.keeps_require _ _).bind fun _ => .pure _)
  have hstore : Preserves (fun c' => c'.ledger.store = c.ledger.store) (checkAccount a) := by
    refine (Preserves.lift _).bind fun _ => ?_
    refine (preserves_onLedger fun _ => .of_keeps (Q := (· = c.ledger.store)) hkeeps).bind
      fun address => ?_
    exact preserves_getAccount (fun _ _ _ h => h) address
  exact hstore c rfl

/-- A check is refused late if the source of account states refuses the address. -/
def RefusesLate (c : Client) (a : CheckAccount) (v : Refusal) : Prop :=
  ¬c.ledger.workspace.Finds a.wallet ∧
    ∃ source address, c.source = some source ∧ source address = .error (.validation v)

theorem late_of_check {a : CheckAccount} (hbridge : c.bridge.RefusesNobody)
    (h : (checkAccount a).exec c = (.error (.validation v), c')) :
    c'.ledger.workspace = c.ledger.workspace ∨ c.RefusesLate a v := by
  rcases exec_bind_eq_error.1 h with h | ⟨_, c₀, hchecked, h⟩
  · obtain ⟨_, rfl⟩ := Prod.ext_iff.1 h
    exact .inl rfl
  obtain ⟨hvalid, hc⟩ := Prod.ext_iff.1 hchecked
  dsimp only [exec_lift] at hvalid hc
  subst hc
  rcases exec_bind_eq_error.1 h with h | ⟨address, c₁, hfirst, h⟩
  · obtain ⟨l, haddress, rfl⟩ := exec_onLedger h
    rw [state_of_refused_address hvalid haddress]
    exact .inl rfl
  obtain ⟨l, haddress, rfl⟩ := exec_onLedger hfirst
  obtain ⟨source, hsource, hrefused⟩ :=
    source_of_refused (c := { c with ledger := l }) hbridge h
  by_cases hfound : c.ledger.workspace.Finds a.wallet
  · obtain ⟨w, hafter, hsame⟩ := state_of_checkedAddress a c.ledger
    rw [haddress] at hafter
    have hkept := preserves_getAccount (P := fun c' => c'.ledger.workspace = l.workspace)
      (fun _ _ _ h => h) address
      { c with ledger := l } rfl
    rw [h] at hkept
    exact .inl (hkept.trans ((congrArg Ledger.workspace hafter).trans (hsame hfound)))
  · exact .inr ⟨hfound, source, address, hsource, hrefused⟩

theorem spares_of_check {a : CheckAccount} (hbridge : c.bridge.RefusesNobody)
    (h : (checkAccount a).exec c = (.error (.validation v), c')) :
    c.ledger.Spares c'.ledger (c.RefusesLate a v) where
  store := by
    have hstore := store_of_checkAccount a c
    rwa [h] at hstore
  files := by
    have hextends := grows_checkAccount a c.ledger.workspace c (.refl _)
    rw [h] at hextends
    exact hextends
  workspace := late_of_check hbridge h

/-- A refusal leaves the store alone and changes no file, and unless it comes late nothing was
created or drawn. It comes late for a target that is all blanks, for an update whose target
cannot be redacted, and for an address that the source of account states refuses. -/
theorem spares_of_refusal (v : Refusal) :
    (∀ (request : Preparation) (l l' : Ledger), request.run.exec l =
      (.error (.validation v), l') →
      l.Spares l' (l.RefusesLate request v)) ∧
    ∀ (a : CheckAccount) (c c' : Client) (timeout : Nat) (es : List Bridge.Event),
      c.bridge = .after timeout es →
      (checkAccount a).exec c = (.error (.validation v), c') →
        c.ledger.Spares c'.ledger (c.RefusesLate a v) := by
  constructor
  · intro request l l' h
    exact Ledger.spares_of_prepare h
  · intro a c c' timeout es hbridge h
    refine spares_of_check ?_ h
    rw [hbridge]
    exact Bridge.refusesNobody_after timeout es

def blankTransfer : TransferFunds where
  source := "new.txt"
  target := " "
  params := "params"
  amount := 1
  fee := 1

def stagedLedger : Ledger :=
  { Ledger.empty with
      store := Store.empty.put Ledger.baseConfigTx.contentHash Ledger.baseConfigTx }

def configUpdate : UpdateData where
  fee := 1
  txHash := Text.hexFields Ledger.baseConfigTx.contentHash []
  issuer := "new.txt"
  params := smallParams.text
  newData := "b"

theorem validate_configUpdate : configUpdate.validate = .ok () := by
  have hissuer : requireText "new.txt" "txIssuer" = .ok () := by decide
  simp only [UpdateData.validate, configUpdate, ChameleonParams.text,
    Text.requireText_hexFields, hissuer]
  rfl

/-- A transfer to a blank and an update of what cannot be redacted are refused, but keys were
created for them. -/
theorem key_created_before_refusal :
    (∃ l', (Preparation.transferFunds blankTransfer).run.exec .empty =
      (.error (.missing "to"), l') ∧
      Ledger.empty.workspace.files.contains "new.txt" = false ∧
        l'.workspace.files.contains "new.txt" = true) ∧
    ∃ l l' : Ledger, (Preparation.updateData configUpdate).run.exec l =
        (.error (.validation (.notRedactable .config)), l') ∧
      l.workspace.files.contains "new.txt" = false ∧
        l'.workspace.files.contains "new.txt" = true := by
  have htrim : Text.trim "new.txt" = "new.txt" := by decide
  have habsent := creates_empty.absent
  rw [htrim] at habsent
  constructor
  · obtain ⟨l', hrun, hcontains⟩ :=
      Ledger.creates_before_refusal (l := .empty) (a := blankTransfer) rfl (by decide)
      (by decide) creates_empty
    exact ⟨l', hrun, habsent, htrim ▸ hcontains⟩
  · have hload := Store.load_eq_ok.2
      (Store.empty.get_put_self Ledger.baseConfigTx.contentHash Ledger.baseConfigTx_fits)
    have hupdate : (Preparation.updateData configUpdate).update? = some configUpdate := rfl
    obtain ⟨d, hdecode, _⟩ := decode_smallParams
    obtain ⟨l', hrun, hcontains⟩ := Ledger.creates_before_guard
      (l := stagedLedger)
      hupdate validate_configUpdate (Ledger.txHashOfHex_hexFields _) hload rfl creates_empty
      fun w => ⟨_, _, resolveParams_text hdecode w⟩
    exact ⟨_, l', hrun, habsent, htrim ▸ hcontains⟩

def emptyTransfer : TransferFunds where
  source := "new.txt"
  target := "other.txt"
  params := "params.txt"
  fee := 1

def staging : Client := { fresh with ledger := stagedLedger }

/-- A transfer of nothing is refused before the files that it names are created, and a check of
what is too short for an address is refused as well. The staged record stays. -/
theorem spares_of_amountless :
    (∃ l', (Preparation.transferFunds emptyTransfer).run.exec stagedLedger =
        (.error (.validation .amountNotPositive), l') ∧
      stagedLedger.Spares l'
        (stagedLedger.RefusesLate (.transferFunds emptyTransfer) .amountNotPositive) ∧
      stagedLedger.workspace.files.contains "new.txt" = false ∧
      l'.workspace = stagedLedger.workspace ∧
      l'.store.get Ledger.baseConfigTx.contentHash = .ok (some Ledger.baseConfigTx)) ∧
    ∃ c', (checkAccount { address := "ab" }).exec staging =
        (.error (.validation (.badAddress "Address")), c') ∧
      stagedLedger.Spares c'.ledger
        (staging.RefusesLate { address := "ab" } (.badAddress "Address")) ∧
      c'.ledger.store.get Ledger.baseConfigTx.contentHash = .ok (some Ledger.baseConfigTx) := by
  have hget : stagedLedger.store.get Ledger.baseConfigTx.contentHash =
      .ok (some Ledger.baseConfigTx) :=
    Store.empty.get_put_self Ledger.baseConfigTx.contentHash Ledger.baseConfigTx_fits
  constructor
  · have hvalid : (Preparation.transferFunds emptyTransfer).validate =
        .error (.validation .amountNotPositive) := by decide
    have hrun := Ledger.exec_of_invalid hvalid stagedLedger
    have hspares := (spares_of_refusal _).1 _ _ _ hrun
    have habsent := creates_empty.absent
    rw [show Text.trim "new.txt" = "new.txt" by decide] at habsent
    refine ⟨_, hrun, hspares, habsent, hspares.workspace.resolve_right fun hlate => ?_, ?_⟩
    · cases hlate with
      | redaction hrequest => cases hrequest
    · rw [hspares.store, hget]
  · have hcheck : (checkAccount { address := "ab" }).exec staging =
        (.error (.validation (.badAddress "Address")), staging) := rfl
    have hspares := (spares_of_refusal _).2 _ _ _ 0 [] rfl hcheck
    exact ⟨_, hcheck, hspares, by rw [hspares.store]; exact hget⟩

end Client

end RedactableLedger
