import RedactableLedger.Proofs.Lifecycle.Deed

namespace RedactableLedger

open RedactableLedger.Action

def Preparation.update? : Preparation → Option UpdateData
  | updateData a => some a
  | deleteData a => some a.asUpdate
  | _ => none

/-- Parameters that decode, and a check string that does. -/
structure ChameleonParams.Admits (params : ChameleonParams) (cs : CheckString) : Prop where
  params : ∃ d, params.decode = .ok d
  checkString : ∃ r, cs.decode = .ok r

/-- A commitment is that of a key when staking starts, and there is none when it ends. -/
def IsCommitment (isStaking : Bool) (commitment : Bytes) : Prop :=
  if isStaking then commitment.length = 64 else commitment = []

theorem IsCommitment.fits (h : IsCommitment isStaking commitment) : Layout.Fits commitment := by
  rw [IsCommitment] at h
  split at h
  · rw [Layout.Fits, h]
    decide
  · rw [h]
    decide

/-- The drafts of a request. -/
inductive Preparation.Drafts : Preparation → Draft → Prop
  | account {a : CreateAccount} (hfee : a.fee ≠ 0) (hadmits : params.Admits cs)
      (htk : params.tk = none) :
      Drafts (.createAccount a) ⟨.unsigned a.header a.fee (Bytes.ofText a.data) (some cs)
        (.accountCreation issuer address params), some params⟩
  | address {a : AddAccount} (hfee : a.fee ≠ 0) (hadmits : params.Admits cs)
      (htk : params.tk = none) :
      Drafts (.addAccount a) ⟨.unsigned a.header a.fee (Bytes.ofText a.data) (some cs)
        (.accountCreation issuer address params), some params⟩
  | transfer {a : TransferFunds} (hfee : a.fee ≠ 0) (hamount : a.amount ≠ 0)
      (hadmits : params.Admits cs) :
      Drafts (.transferFunds a) ⟨.unsigned a.header a.fee (Bytes.ofText a.data) (some cs)
        (.fundsTransfer a.amount a.txCount source target), some params⟩
  | config {a : ChangeConfig} (hfee : a.fee ≠ 0)
      (hoption : ConfigOption.ofId? a.option = some option) :
      Drafts (.changeConfig a)
        ⟨.unsigned a.header a.fee [] none (.config a.option a.payload a.txCount), none⟩
  | staking {a : SetStaking} (hfee : a.fee ≠ 0)
      (hcommitment : IsCommitment a.staking commitment) :
      Drafts (.setStaking a)
        ⟨.unsigned a.header a.fee [] none (.stake a.staking account commitment), none⟩
  | update {request : Preparation} (hrequest : request.update? = some a) (hfee : a.fee ≠ 0)
      (htarget : txHashOfHex (Text.trim a.txHash) = .ok target) (hadmits : params.Admits cs) :
      Drafts request ⟨.unsigned a.header a.fee (Bytes.ofText a.data) (some cs)
        (.update target targetCheckString (Bytes.ofText a.newData) issuer), some params⟩

variable {header : UInt8} {fee amount : UInt64} {txCount : UInt32} {data : Bytes}
  {tx : Transaction} {request : Preparation} {draft : Draft}

theorem fee_ne_zero_of_bind {f : Unit → Outcome α} (h : requirePositiveFee fee >>= f = .ok x) :
    fee ≠ 0 := by
  obtain ⟨_, hfee, _⟩ := bind_eq_ok.1 h
  intro hzero
  rw [requirePositiveFee, if_pos hzero] at hfee
  cases hfee

theorem Transaction.amount_ne_zero_of_transferFunds
    (h : transferFunds header amount fee txCount source target cs data = .ok tx) :
    amount ≠ 0 := by
  obtain ⟨_, _, h⟩ := bind_eq_ok.1 h
  dsimp only at h
  split at h
  · cases h
  · assumption

theorem ChangeConfig.option_of_validate {a : ChangeConfig} (h : a.validate = .ok ()) :
    ∃ option, ConfigOption.ofId? a.option = some option := by
  obtain ⟨_, _, h⟩ := bind_eq_ok.1 h
  obtain ⟨_, _, h⟩ := bind_eq_ok.1 h
  cases hoption : ConfigOption.ofId? a.option with
  | none =>
    rw [hoption] at h
    cases h
  | some option => exact ⟨option, rfl⟩

namespace Ledger

theorem yields_inWorkspace {a : Action Workspace α} {Q : α → Prop} (h : Yields a Q) :
    Yields (inWorkspace a) Q := fun l x hx => h l.workspace x hx

theorem yields_require (name : String) {a : Action Workspace (Option α)} {Q : α → Prop}
    (h : Yields a fun o => ∀ x ∈ o, Q x) : Yields (require name a) Q := by
  refine (yields_inWorkspace h).bind fun o ho => ?_
  cases o with
  | none => exact .throw _
  | some x => exact .pure (ho x rfl)

theorem yields_drawCheckString (params : ChameleonParams) :
    Yields (drawCheckString params) params.Admits := by
  intro l cs h
  cases hd : params.decode with
  | error e =>
    simp only [drawCheckString, inWorkspace, exec_on, exec_of, ChameleonParams.newCheckString,
      hd] at h
    cases h
  | ok d =>
    obtain ⟨l', hdraw⟩ := drawCheckString_of_decode hd l
    rw [hdraw] at h
    cases h
    exact ⟨⟨d, hd⟩, _, CheckString.decode_ofScalar _⟩

theorem yields_resolveCommitment (argument : String) :
    Yields (resolveCommitment argument) fun o => ∀ commitment ∈ o, commitment.length = 64 := by
  refine (Yields.any _).bind fun key _ => .pure fun commitment hmem => ?_
  obtain ⟨k, _, rfl⟩ := Option.map_eq_some_iff.1 hmem
  exact k.address.octets.length_eq

theorem yields_commitmentFor (a : SetStaking) :
    Yields (commitmentFor a) (IsCommitment a.staking) := by
  rw [commitmentFor]
  cases a.staking with
  | true => exact yields_require _ (yields_resolveCommitment _)
  | false => exact .pure rfl

theorem yields_accountOf (header : UInt8) (fee : UInt64) (rootWallet : String)
    (address : Address) (params data : String) :
    Yields (draftAccountOf header fee rootWallet address params data) fun draft =>
      ∃ issuer params cs, fee ≠ 0 ∧ params.Admits cs ∧ params.tk = none ∧
        draft = ⟨.unsigned header fee (Bytes.ofText data) (some cs)
          (.accountCreation issuer address params), some params⟩ := by
  refine (Yields.any _).bind fun issuer _ => (Yields.any _).bind fun params _ => ?_
  refine (yields_drawCheckString _).bind fun cs hadmits => (Yields.lift _).bind fun tx htx => ?_
  have hfee : fee ≠ 0 := fee_ne_zero_of_bind htx
  cases Transaction.createAccount_eq_ok htx
  exact .pure ⟨_, params.sanitized, cs, hfee, hadmits, rfl, rfl⟩

theorem yields_account (a : CreateAccount) :
    Yields (draftAccount a) (Preparation.createAccount a).Drafts := by
  refine (Yields.any _).bind fun _ _ => (Yields.any _).bind fun key _ => ?_
  intro l draft h
  obtain ⟨issuer, params, cs, hfee, hadmits, htk, rfl⟩ := yields_accountOf _ _ _ _ _ _ l draft h
  exact .account hfee hadmits htk

theorem yields_addAccount (a : AddAccount) :
    Yields (draftAddAccount a) (Preparation.addAccount a).Drafts := by
  refine (Yields.any _).bind fun _ _ => (Yields.any _).bind fun address _ => ?_
  intro l draft h
  obtain ⟨issuer, params, cs, hfee, hadmits, htk, rfl⟩ := yields_accountOf _ _ _ _ _ _ l draft h
  exact .address hfee hadmits htk

theorem yields_transfer (a : TransferFunds) :
    Yields (draftTransfer a) (Preparation.transferFunds a).Drafts := by
  refine (Yields.any _).bind fun _ _ => (Yields.any _).bind fun source _ => ?_
  refine (Yields.any _).bind fun target _ => (Yields.any _).bind fun params _ => ?_
  refine (yields_drawCheckString _).bind fun cs hadmits => (Yields.lift _).bind fun tx htx => ?_
  have hfee : a.fee ≠ 0 := fee_ne_zero_of_bind htx
  have hamount : a.amount ≠ 0 := Transaction.amount_ne_zero_of_transferFunds htx
  cases Transaction.transferFunds_eq_ok htx
  exact .pure (.transfer hfee hamount hadmits)

theorem yields_config (a : ChangeConfig) :
    Yields (draftConfig a) (Preparation.changeConfig a).Drafts := by
  refine (Yields.lift _).bind fun _ hvalid => (Yields.any _).bind fun _ _ => ?_
  refine (Yields.lift _).bind fun tx htx => ?_
  obtain ⟨option, hoption⟩ := ChangeConfig.option_of_validate hvalid
  have hfee : a.fee ≠ 0 := fee_ne_zero_of_bind htx
  cases Transaction.changeConfig_eq_ok htx
  exact .pure (.config hfee hoption)

theorem yields_staking (a : SetStaking) :
    Yields (draftStaking a) (Preparation.setStaking a).Drafts := by
  refine (Yields.any _).bind fun _ _ => (Yields.any _).bind fun account _ => ?_
  refine (yields_commitmentFor a).bind fun commitment hcommitment =>
    (Yields.lift _).bind fun tx htx => ?_
  have hfee : a.fee ≠ 0 := fee_ne_zero_of_bind htx
  cases Transaction.setStaking_eq_ok htx
  exact .pure (.staking hfee hcommitment)

theorem yields_update (a : UpdateData) (hrequest : request.update? = some a) :
    Yields (draftUpdate a) request.Drafts := by
  refine (Yields.any _).bind fun _ _ => (Yields.lift _).bind fun target htarget => ?_
  refine (Yields.any _).bind fun issuer _ => (Yields.any _).bind fun params _ => ?_
  refine (Yields.any _).bind fun targetCheckString _ =>
    (yields_drawCheckString _).bind fun cs hadmits => ?_
  refine (Yields.lift _).bind fun tx htx => ?_
  have hfee : a.fee ≠ 0 := fee_ne_zero_of_bind htx
  obtain ⟨_, _, htx⟩ := bind_eq_ok.1 htx
  cases htx
  exact .pure (.update hrequest hfee htarget hadmits)

theorem yields_draft (request : Preparation) : Yields request.draft request.Drafts := by
  cases request with
  | createAccount a => exact yields_account a
  | addAccount a => exact yields_addAccount a
  | transferFunds a => exact yields_transfer a
  | changeConfig a => exact yields_config a
  | setStaking a => exact yields_staking a
  | updateData a => exact yields_update a rfl
  | deleteData a => exact yields_update a.asUpdate rfl

end Ledger

def Preparation.texts : Preparation → List String
  | createAccount a => [a.data]
  | addAccount a => [a.data]
  | transferFunds a => [a.data]
  | changeConfig _ | setStaking _ => []
  | updateData a => [a.newData, a.data]
  | deleteData a => [a.asUpdate.newData, a.data]

/-- The texts that a request puts into records are short enough for their lengths to be
written. -/
def Preparation.Fits (request : Preparation) : Prop :=
  ∀ text ∈ request.texts, Layout.Fits (Bytes.ofText text)

/-- The byte strings that an operation puts into records are short enough for their lengths to
be written. -/
def Operation.Fits : Operation → Prop
  | prepare request => request.Fits
  | redact _ data _ => Layout.Fits data
  | _ => True

def Occurrence.Fits : Occurrence → Prop
  | operation op => op.Fits
  | _ => True

namespace Preparation

theorem texts_of_update (h : request.update? = some a) :
    request.texts = [a.newData, a.data] := by
  cases request with
  | updateData b => cases h; rfl
  | deleteData b => cases h; rfl
  | _ => cases h

theorem Drafts.fits (h : request.Drafts draft) (hfits : request.Fits) : draft.tx.Fits := by
  cases h with
  | account => exact ⟨hfits _ List.mem_cons_self, trivial⟩
  | address => exact ⟨hfits _ List.mem_cons_self, trivial⟩
  | transfer => exact ⟨hfits _ List.mem_cons_self, trivial⟩
  | config => exact ⟨show Layout.Fits [] by decide, trivial⟩
  | staking _ hcommitment => exact ⟨show Layout.Fits [] by decide, hcommitment.fits⟩
  | update hrequest =>
    rw [Fits, texts_of_update hrequest] at hfits
    exact ⟨hfits _ (List.mem_cons_of_mem _ List.mem_cons_self), hfits _ List.mem_cons_self⟩

/-- A draft that announces a redaction announces that of the target that was asked for, to the
data that was asked for, and any other draft announces none. -/
theorem Drafts.redaction (h : request.Drafts draft) :
    (request.update? = none ∧ draft.redaction? = none) ∨
      ∃ a target cs issuer params, request.update? = some a ∧
        txHashOfHex (Text.trim a.txHash) = .ok target ∧
        draft.tx.body = .update target cs (Bytes.ofText a.newData) issuer ∧
        draft.redaction? = some ⟨target, Bytes.ofText a.newData, params⟩ := by
  cases h with
  | update hrequest _ htarget => exact .inr ⟨_, _, _, _, _, hrequest, htarget, rfl, rfl⟩
  | account => exact .inl ⟨rfl, rfl⟩
  | address => exact .inl ⟨rfl, rfl⟩
  | transfer => exact .inl ⟨rfl, rfl⟩
  | config => exact .inl ⟨rfl, rfl⟩
  | staking => exact .inl ⟨rfl, rfl⟩

end Preparation

namespace Ledger

variable {l : Ledger} {hash : TxHash} {o : Occurrence}

theorem staged?_deedOfSigning (hash : TxHash) (r : Outcome Transaction) :
    (deedOfSigning hash r).staged? = none := by
  cases r <;> rfl

theorem staged?_deedOfRedaction (r : Redaction) (o : Outcome CheckString) :
    (deedOfRedaction r o).staged? = none := by
  cases o <;> rfl

theorem staged?_deed (h : ∀ request, o ≠ .operation (.prepare request)) :
    (l.deed o).staged? = none := by
  cases o with
  | supply draws => rfl
  | linkFault fault => rfl
  | operation op =>
    cases op with
    | prepare request => exact absurd rfl (h request)
    | submit other => rfl
    | attach other primary cosigner => exact staged?_deedOfSigning ..
    | sign other key cosigner => exact staged?_deedOfSigning ..
    | attachAndSubmit other primary cosigner => exact staged?_deedOfSigning ..
    | redact other data params => exact staged?_deedOfRedaction ..
    | delete other params => exact staged?_deedOfRedaction ..

theorem staged_of_run {p : Prepared} {l' : Ledger} (h : request.run.exec l = (.ok p, l')) :
    ∃ draft, (request.draft.exec l).1 = .ok draft ∧ request.Drafts draft ∧ draft.tx = p.tx ∧
      Effect l.store (.staged p.hash draft) l'.store := by
  have heffect := effect_of_preparation request l
  obtain ⟨r, l₁, hdraft⟩ : ∃ r l₁, request.draft.exec l = (r, l₁) := ⟨_, _, rfl⟩
  cases r with
  | error e =>
    rw [Preparation.run, exec_bind_error hdraft] at h
    cases h
  | ok draft =>
    have hdrafts : request.Drafts draft := yields_draft request l draft (by rw [hdraft])
    rw [h, hdraft] at heffect
    rw [Preparation.run, exec_bind_ok hdraft, exec_stage] at h
    refine ⟨draft, by rw [hdraft], hdrafts, ?_, heffect⟩
    cases hid : draft.tx.id draft.params with
    | error e =>
      rw [hid] at h
      cases h
    | ok hash =>
      rw [hid] at h
      cases h
      rfl

theorem request_of_deed (h : l.deed o = .staged hash draft) :
    ∃ request, o = .operation (.prepare request) ∧ request.Drafts draft := by
  by_cases hprepare : ∃ request, o = .operation (.prepare request)
  · obtain ⟨request, rfl⟩ := hprepare
    refine ⟨request, rfl, ?_⟩
    rw [deed] at h
    cases hrun : (request.run.exec l).1 with
    | error e =>
      rw [hrun] at h
      cases hdraft : (request.draft.exec l).1 <;> rw [hdraft] at h <;> cases h
    | ok p =>
      obtain ⟨draft', hdraft, hdrafts, _⟩ := staged_of_run (Prod.ext hrun rfl)
      rw [hrun, hdraft] at h
      cases h
      exact hdrafts
  · have hnone : (l.deed o).staged? = none :=
      staged?_deed fun request ho => hprepare ⟨request, ho⟩
    rw [h] at hnone
    cases hnone

theorem outcome_of_deedOfSigning {r : Outcome Transaction}
    (h : deedOfSigning other r = .signed hash record) :
    other = hash ∧ r = .ok record := by
  cases r with
  | error e => cases h
  | ok record' =>
    cases h
    exact ⟨rfl, rfl⟩

/-- An amendment that signs puts back what it makes of the record. -/
theorem record_of_signing {g : Transaction → Outcome Transaction} {l' : Ledger}
    (h : (amend hash fun tx => do let signed ← g tx; return (signed, signed)).exec l =
      (.ok record, l')) :
    ∃ tx, l.store.load hash = .ok tx ∧ g tx = .ok record ∧
      l'.store = l.store.put hash record := by
  obtain ⟨tx, tx', hload, hf, hstore⟩ := store_of_amend_ok h
  obtain ⟨signed, hg, he⟩ := bind_eq_ok.1 hf
  cases he
  exact ⟨tx, hload, hg, hstore⟩

/-- What is signed was loaded, and signatures were put into its slots. -/
theorem attach_of_deed (h : l.deed o = .signed hash record) :
    ∃ tx primary cosigner, l.store.load hash = .ok tx ∧
      tx.attach primary cosigner = .ok record := by
  cases o with
  | supply draws => cases h
  | linkFault fault => cases h
  | operation op =>
    cases op with
    | prepare request =>
      rw [deed] at h
      generalize (request.draft.exec l).1 = r at h
      generalize (request.run.exec l).1 = r' at h
      cases r <;> cases r' <;> cases h
    | attach other primary cosigner =>
      obtain ⟨rfl, hok⟩ := outcome_of_deedOfSigning h
      obtain ⟨tx, hload, hattach, _⟩ := record_of_signing (Prod.ext hok rfl)
      exact ⟨tx, primary, cosigner, hload, hattach⟩
    | sign other key cosigner =>
      obtain ⟨rfl, hok⟩ := outcome_of_deedOfSigning h
      obtain ⟨tx, hload, hsign, _⟩ := record_of_signing (Prod.ext hok rfl)
      obtain ⟨primary, second, hattach⟩ := Transaction.attach_of_sign hsign
      exact ⟨tx, primary, second, hload, hattach⟩
    | submit other => cases h
    | attachAndSubmit other primary cosigner =>
      obtain ⟨rfl, hok⟩ := outcome_of_deedOfSigning h
      obtain ⟨tx, hload, hattach, _⟩ := record_of_signing (Prod.ext hok rfl)
      exact ⟨tx, primary, cosigner, hload, hattach⟩
    | redact other data params =>
      rw [deed] at h
      generalize ((redact other data params).exec l).1 = r at h
      cases r <;> cases h
    | delete other params =>
      rw [deed] at h
      generalize ((delete other params).exec l).1 = r at h
      cases r <;> cases h

end Ledger

end RedactableLedger
