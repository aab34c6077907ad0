import RedactableLedger.Lifecycle.Operation
import RedactableLedger.Proofs.Transaction

namespace RedactableLedger

open RedactableLedger.Action

namespace Transaction

variable {tx : Transaction} {header : UInt8} {fee amount payload : UInt64} {txCount : UInt32}
  {data commitment : Bytes}

structure IsBlank (tx : Transaction) : Prop where
  sig1 : tx.sig1 = .empty
  sig2 : tx.sig2 = .empty

theorem isBlank_unsigned {cs : Option CheckString} {body : TxBody} :
    (unsigned header fee data cs body).IsBlank :=
  ⟨rfl, rfl⟩

theorem createAccount_eq_ok
    (h : createAccount header fee issuer newAddress params cs data = .ok tx) :
    tx = unsigned header fee data (some cs)
      (.accountCreation issuer newAddress params.sanitized) := by
  obtain ⟨_, _, h⟩ := bind_eq_ok.1 h
  cases h
  rfl

theorem transferFunds_eq_ok
    (h : transferFunds header amount fee txCount source target cs data = .ok tx) :
    tx = unsigned header fee data (some cs) (.fundsTransfer amount txCount source target) := by
  obtain ⟨_, _, h⟩ := bind_eq_ok.1 h
  dsimp only at h
  split at h
  · cases h
  · cases h
    rfl

theorem transferFunds_of_positive (hfee : fee ≠ 0) (hamount : amount ≠ 0) (header : UInt8)
    (txCount : UInt32) (source target : Digest) (cs : CheckString) (data : Bytes) :
    transferFunds header amount fee txCount source target cs data =
      .ok (unsigned header fee data (some cs)
        (.fundsTransfer amount txCount source target)) := by
  simp only [transferFunds, requirePositiveFee, hfee, hamount]
  rfl

theorem changeConfig_eq_ok (h : changeConfig header option payload fee txCount = .ok tx) :
    tx = unsigned header fee [] none (.config option payload txCount) := by
  obtain ⟨_, _, h⟩ := bind_eq_ok.1 h
  cases h
  rfl

theorem setStaking_eq_ok (h : setStaking header fee isStaking account commitment = .ok tx) :
    tx = unsigned header fee [] none (.stake isStaking account commitment) := by
  obtain ⟨_, _, h⟩ := bind_eq_ok.1 h
  dsimp only at h
  split at h
  · cases h
  · cases h
    rfl

theorem announceUpdate_of_positive (h : requirePositiveFee fee = .ok ()) :
    announceUpdate header fee target targetCheckString newData issuer cs data =
      .ok (unsigned header fee data (some cs)
        (.update target targetCheckString newData issuer)) :=
  bind_eq_ok.2 ⟨(), h, rfl⟩

end Transaction

theorem UpdateData.positive_of_validate {a : UpdateData} (h : a.validate = .ok ()) :
    requirePositiveFee a.fee = .ok () := by
  obtain ⟨_, _, h⟩ := bind_eq_ok.1 h
  obtain ⟨_, _, h⟩ := bind_eq_ok.1 h
  obtain ⟨_, _, h⟩ := bind_eq_ok.1 h
  exact h

/-- The replacement of the data of a record under given parameters. -/
structure Redaction where
  target : TxHash
  data : Bytes
  params : ChameleonParams

def Draft.redaction? (draft : Draft) : Option Redaction :=
  match draft.tx.body, draft.params with
  | .update target _ newData _, some params => some ⟨target, newData, params⟩
  | _, _ => none

/-- A redaction puts the redacted record of its target back and yields a check string. -/
def Redaction.Replaces (r : Redaction) (s : Store) (cs : CheckString) (s' : Store) : Prop :=
  ∃ tx redacted, s.load r.target = .ok tx ∧ tx.Redacts r.target r.data r.params cs redacted ∧
    s' = s.put r.target redacted

theorem Redaction.Replaces.decode {r : Redaction} (h : r.Replaces s cs s') :
    ∃ d, r.params.decode = .ok d := by
  obtain ⟨_, _, _, hredacts, _⟩ := h
  exact hredacts.decode

/-- What drafting leaves of a store: an announcement of an update has redacted its target, and
nothing else is changed. -/
inductive Drafted (s : Store) : Outcome Draft → Store → Prop
  | failed : Drafted s (.error e) s
  | plain (hblank : draft.tx.IsBlank) (hr : draft.redaction? = none) : Drafted s (.ok draft) s
  | update {r : Redaction} {own : CheckString} (hreplaces : r.Replaces s cs s')
      (hown : own.decode = .ok scalar)
      (hdraft : draft =
        ⟨.unsigned header fee data (some own) (.update r.target cs r.data issuer),
          some r.params⟩) :
      Drafted s (.ok draft) s'

namespace Ledger

variable {l l' : Ledger} {e : Fault} {hash : TxHash} {params : ChameleonParams}

theorem store_of_amend_ok {f : Transaction → Outcome (α × Transaction)}
    (h : (amend hash f).exec l = (.ok a, l')) :
    ∃ tx tx', l.store.load hash = .ok tx ∧ f tx = .ok (a, tx') ∧
      l'.store = l.store.put hash tx' := by
  simp only [amend, locked, inStore, exec_of, exec_on, Store.amend] at h
  cases hf : l.store.load hash >>= f with
  | error e =>
    rw [hf] at h
    cases h
  | ok p =>
    rw [hf] at h
    obtain ⟨tx, hload, htx⟩ := bind_eq_ok.1 hf
    cases h
    exact ⟨tx, p.2, hload, htx, rfl⟩

theorem store_of_amend_error {f : Transaction → Outcome (α × Transaction)}
    (h : (amend hash f).exec l = (.error e, l')) : l'.store = l.store := by
  simp only [amend, locked, inStore, exec_of, exec_on, Store.amend] at h
  cases hf : l.store.load hash >>= f with
  | error e =>
    rw [hf] at h
    cases h
    rfl
  | ok p =>
    rw [hf] at h
    cases h

theorem outcome_of_amend {f : Transaction → Outcome (α × Transaction)} {tx tx' : Transaction}
    (hget : l.store.get hash = .ok (some tx)) (hf : f tx = .ok (a, tx')) :
    ((amend hash f).exec l).1 = .ok a := by
  have hload : l.store.load hash >>= f = .ok (a, tx') :=
    bind_eq_ok.2 ⟨tx, Store.load_eq_ok.2 hget, hf⟩
  simp only [amend, locked, inStore, exec_of, exec_on, Store.amend, hload]

theorem replaces_of_redact (h : (redact hash data params).exec l = (.ok cs, l')) :
    (Redaction.mk hash data params).Replaces l.store cs l'.store := by
  obtain ⟨tx, redacted, hload, hredact, hstore⟩ := store_of_amend_ok h
  exact ⟨tx, redacted, hload, Transaction.redacts_of_redact hredact, hstore⟩

theorem keeps_inWorkspace (a : Action Workspace α) : Keeps store (inWorkspace a) := fun _ => rfl

theorem keeps_require (name : String) (a : Action Workspace (Option α)) :
    Keeps store (require name a) := by
  refine (keeps_inWorkspace a).bind fun x => ?_
  cases x with
  | none => exact .throw _
  | some x => exact .pure x

theorem keeps_drawCheckString (params : ChameleonParams) :
    Keeps store (drawCheckString params) :=
  keeps_inWorkspace _

theorem keeps_transferTarget (a : TransferFunds) : Keeps store (transferTarget a) :=
  .ite (.lift _) ((keeps_require _ _).bind fun _ => .pure _)

theorem keeps_commitmentFor (a : SetStaking) : Keeps store (commitmentFor a) :=
  .ite (keeps_require _ _) (.pure _)

def nextScalar (l : Ledger) : Bn254.Scalar := (Draws.scalar.run l.workspace.draws).1

theorem drawCheckString_of_decode (hd : params.decode = .ok d) (l : Ledger) :
    ∃ l', (drawCheckString params).exec l = (.ok (.ofScalar l.nextScalar), l') := by
  simp only [drawCheckString, inWorkspace, exec_on, exec_of, ChameleonParams.newCheckString, hd]
  exact ⟨_, rfl⟩

def Drafts (a : Action Ledger Draft) : Prop :=
  ∀ l, Drafted l.store (a.exec l).1 (a.exec l).2.store

theorem Drafts.bind {a : Action Ledger α} {f : α → Action Ledger Draft} (ha : Keeps store a)
    (hf : ∀ x, Drafts (f x)) : Drafts (a >>= f) := by
  intro l
  refine ha.bind_cases (motive := fun p => Drafted l.store p.1 p.2.store) ?_ ?_
  · intro e t ht
    rw [ht]
    exact .failed
  · intro x t _ ht
    rw [← ht]
    exact hf x t

theorem Drafts.lift_bind {r : Outcome α} {f : α → Action Ledger Draft}
    (hf : ∀ x, r = .ok x → Drafts (f x)) : Drafts (lift r >>= f) := by
  intro l
  cases r with
  | error e => exact .failed
  | ok x => exact hf x rfl l

theorem Drafts.pure {draft : Draft} (hblank : draft.tx.IsBlank) (hr : draft.redaction? = none) :
    Drafts (pure draft) :=
  fun _ => .plain hblank hr

theorem drafts_accountOf (header : UInt8) (fee : UInt64) (rootWallet : String)
    (address : Address) (params data : String) :
    Drafts (draftAccountOf header fee rootWallet address params data) := by
  refine .bind (keeps_require _ _) fun issuer => .bind (keeps_require _ _) fun params => ?_
  refine .bind (keeps_drawCheckString _) fun cs => .lift_bind fun tx htx => ?_
  cases Transaction.createAccount_eq_ok htx
  exact .pure Transaction.isBlank_unsigned rfl

theorem drafts_account (a : CreateAccount) : Drafts (draftAccount a) :=
  .lift_bind fun _ _ => .bind (keeps_require _ _) fun _ => drafts_accountOf _ _ _ _ _ _

theorem drafts_addAccount (a : AddAccount) : Drafts (draftAddAccount a) :=
  .lift_bind fun _ _ => .lift_bind fun _ _ => drafts_accountOf _ _ _ _ _ _

theorem drafts_transfer (a : TransferFunds) : Drafts (draftTransfer a) := by
  refine .lift_bind fun _ _ => .bind (keeps_require _ _) fun source => ?_
  refine .bind (keeps_transferTarget a) fun target => .bind (keeps_require _ _) fun params => ?_
  refine .bind (keeps_drawCheckString _) fun cs => .lift_bind fun tx htx => ?_
  cases Transaction.transferFunds_eq_ok htx
  exact .pure Transaction.isBlank_unsigned rfl

theorem drafts_config (a : ChangeConfig) : Drafts (draftConfig a) := by
  refine .lift_bind fun _ _ => .bind (keeps_require _ _) fun _ => .lift_bind fun tx htx => ?_
  cases Transaction.changeConfig_eq_ok htx
  exact .pure Transaction.isBlank_unsigned rfl

theorem drafts_staking (a : SetStaking) : Drafts (draftStaking a) := by
  refine .lift_bind fun _ _ => .bind (keeps_require _ _) fun account => ?_
  refine .bind (keeps_commitmentFor a) fun commitment => .lift_bind fun tx htx => ?_
  cases Transaction.setStaking_eq_ok htx
  exact .pure Transaction.isBlank_unsigned rfl

/-- After the target is redacted the parameters are known to decode and the fee to be positive,
so that the announcement cannot fail. -/
theorem drafts_update (a : UpdateData) : Drafts (draftUpdate a) := by
  refine .lift_bind fun _ hvalid => .lift_bind fun target _ => ?_
  refine .bind (keeps_require _ _) fun issuer => .bind (keeps_require _ _) fun params => ?_
  intro l
  obtain ⟨r, l₁, hredact⟩ : ∃ r l₁,
      (redact target (Bytes.ofText a.newData) params).exec l = (r, l₁) := ⟨_, _, rfl⟩
  cases r with
  | error e =>
    rw [exec_bind_error hredact, store_of_amend_error hredact]
    exact .failed
  | ok cs =>
    -- the target is redacted from here on, so that nothing may fail any more
    rw [exec_bind_ok hredact]
    have hreplaces := replaces_of_redact hredact
    obtain ⟨d, hd⟩ := hreplaces.decode
    obtain ⟨l₂, hdraw⟩ := drawCheckString_of_decode hd l₁
    have hstore : l₂.store = l₁.store := by
      rw [← keeps_drawCheckString params l₁, hdraw]
    rw [exec_bind_ok hdraw,
      Transaction.announceUpdate_of_positive (UpdateData.positive_of_validate hvalid)]
    refine .update (r := ⟨target, Bytes.ofText a.newData, params⟩)
      ?_ (CheckString.decode_ofScalar l₁.nextScalar)
      rfl
    rw [← hstore] at hreplaces
    exact hreplaces

theorem drafts_draft (request : Preparation) : Drafts request.draft := by
  cases request with
  | createAccount a => exact drafts_account a
  | addAccount a => exact drafts_addAccount a
  | transferFunds a => exact drafts_transfer a
  | changeConfig a => exact drafts_config a
  | setStaking a => exact drafts_staking a
  | updateData a => exact drafts_update a
  | deleteData a => exact drafts_update a.asUpdate

end Ledger

end RedactableLedger
