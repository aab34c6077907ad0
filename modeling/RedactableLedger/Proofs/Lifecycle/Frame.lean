import RedactableLedger.Proofs.Lifecycle.Request

namespace RedactableLedger

open RedactableLedger.Action

def LockTable.IsFree (t : LockTable) : Prop := t.entries = []

theorem LockTable.IsFree.checkin_checkout {t : LockTable} (h : t.IsFree) (hash : TxHash) :
    ((t.checkout hash).2.checkin hash (t.checkout hash).1).IsFree := by
  obtain ⟨entries, next⟩ := t
  change entries = [] at h
  subst h
  simp [IsFree, LockTable.checkout, LockTable.find?, LockTable.checkin, LockTable.release,
    LockTable.sweep]

namespace Ledger

variable {P : Ledger → Prop}

/-- A property of ledgers that no step of preparing can end. -/
structure Stable (P : Ledger → Prop) : Prop where
  publicKey : ∀ argument, Preserves P (inWorkspace (resolvePublicKey argument))
  params : ∀ argument, Preserves P (inWorkspace (resolveParams argument))
  checkString : ∀ params, Preserves P (drawCheckString params)
  redact : ∀ hash data params, Preserves P (redact hash data params)
  put : ∀ hash tx, Preserves P (inStore (change (·.put hash tx)))

theorem preserves_require (name : String) {a : Action Workspace (Option α)}
    (ha : Preserves P (inWorkspace a)) :
    Preserves P (require name a) := by
  refine ha.bind fun o => ?_
  cases o with
  | none => exact .throw _
  | some x => exact .pure x

theorem exec_resolveCommitment (argument : String) (w : Workspace) :
    ((resolveCommitment argument).exec w).2 = ((resolvePublicKey argument).exec w).2 := by
  rw [resolveCommitment, exec_bind]
  split
  · rename_i hkey
    rw [hkey]
    rfl
  · rename_i hkey
    rw [hkey]

theorem Stable.commitment (h : Stable P) (argument : String) :
    Preserves P (inWorkspace (resolveCommitment argument)) := by
  intro l hl
  have hkey := h.publicKey argument l hl
  rw [inWorkspace, exec_on] at hkey ⊢
  rw [exec_resolveCommitment]
  exact hkey

theorem Stable.accountOf (h : Stable P) (header : UInt8) (fee : UInt64) (rootWallet : String)
    (address : Address) (params data : String) :
    Preserves P (draftAccountOf header fee rootWallet address params data) := by
  refine (preserves_require _ (h.publicKey _)).bind fun issuer => ?_
  refine (preserves_require _ (h.params _)).bind fun params => ?_
  exact (h.checkString _).bind fun cs => (Preserves.lift _).bind fun tx => .pure _

theorem Stable.transfer (h : Stable P) (a : TransferFunds) : Preserves P (draftTransfer a) := by
  refine (Preserves.lift _).bind fun _ =>
    (preserves_require _ (h.publicKey _)).bind fun source => ?_
  have htarget : Preserves P (transferTarget a) :=
    .ite (.lift _) ((preserves_require _ (h.publicKey _)).bind fun _ => .pure _)
  refine htarget.bind fun target => (preserves_require _ (h.params _)).bind fun params => ?_
  exact (h.checkString _).bind fun cs => (Preserves.lift _).bind fun tx => .pure _

theorem Stable.staking (h : Stable P) (a : SetStaking) : Preserves P (draftStaking a) := by
  refine (Preserves.lift _).bind fun _ =>
    (preserves_require _ (h.publicKey _)).bind fun account => ?_
  have hcommitment : Preserves P (commitmentFor a) :=
    .ite (preserves_require _ (h.commitment _)) (.pure _)
  exact hcommitment.bind fun commitment => (Preserves.lift _).bind fun tx => .pure _

theorem Stable.update (h : Stable P) (a : UpdateData) : Preserves P (draftUpdate a) := by
  refine (Preserves.lift _).bind fun _ => (Preserves.lift _).bind fun target => ?_
  refine (preserves_require _ (h.publicKey _)).bind fun issuer => ?_
  refine (preserves_require _ (h.params _)).bind fun params => ?_
  refine (h.redact _ _ _).bind fun targetCheckString => (h.checkString _).bind fun cs => ?_
  exact (Preserves.lift _).bind fun tx => .pure _

theorem Stable.draft (h : Stable P) (request : Preparation) : Preserves P request.draft := by
  cases request with
  | createAccount a =>
    refine (Preserves.lift _).bind fun _ =>
      (preserves_require _ (h.publicKey _)).bind fun _ => ?_
    exact h.accountOf _ _ _ _ _ _
  | addAccount a =>
    exact (Preserves.lift _).bind fun _ => (Preserves.lift _).bind fun _ =>
      h.accountOf _ _ _ _ _ _
  | transferFunds a => exact h.transfer a
  | changeConfig a =>
    refine (Preserves.lift _).bind fun _ =>
      (preserves_require _ (h.publicKey _)).bind fun _ => ?_
    exact (Preserves.lift _).bind fun _ => .pure _
  | setStaking a => exact h.staking a
  | updateData a => exact h.update a
  | deleteData a => exact h.update a.asUpdate

theorem Stable.prepare (h : Stable P) (request : Preparation) : Preserves P request.run := by
  refine (h.draft request).bind fun draft => ?_
  exact (Preserves.lift _).bind fun hash => (h.put _ _).bind fun _ => .pure _

/-- A property of ledgers that neither resolving, nor staging, nor redacting can end. -/
structure Steady (P : Ledger → Prop) : Prop where
  workspace : ∀ l w, P l → P { l with workspace := w }
  store : ∀ l s, P l → P { l with store := s }
  redact : ∀ hash data params, Preserves P (redact hash data params)

theorem Steady.stable (h : Steady P) : Stable P where
  publicKey _ l hl := h.workspace l _ hl
  params _ l hl := h.workspace l _ hl
  checkString _ l hl := h.workspace l _ hl
  redact := h.redact
  put _ _ l hl := h.store l _ hl

theorem steady_link (link : Link) : Steady (·.link = link) where
  workspace _ _ h := h
  store _ _ h := h
  redact _ _ _ _ h := h

theorem link_of_prepare (request : Preparation) (l : Ledger) :
    (request.run.exec l).2.link = l.link :=
  (steady_link l.link).stable.prepare request l rfl

theorem link_of_amend (hash : TxHash) (f : Transaction → Outcome (α × Transaction))
    (l : Ledger) :
    ((amend hash f).exec l).2.link = l.link := rfl

theorem free_of_amend (hash : TxHash) (f : Transaction → Outcome (α × Transaction)) :
    Preserves (·.locks.IsFree) (amend hash f) :=
  fun _ h => h.checkin_checkout hash

theorem steady_free : Steady (·.locks.IsFree) where
  workspace _ _ h := h
  store _ _ h := h
  redact hash _ _ := free_of_amend hash _

theorem free_of_send (tx : Transaction) : Preserves (·.locks.IsFree) (send tx) := by
  intro l h
  rw [send, broadcast, exec_of]
  split <;> exact h

/-- What preparing, amending and sending keep, every operation keeps. -/
theorem preserves_run (hprepare : ∀ request : Preparation, Preserves P request.run)
    (hamend : ∀ {α : Type} (hash : TxHash) (f : Transaction → Outcome (α × Transaction)),
      Preserves P (amend hash f))
    (hsend : ∀ tx, Preserves P (send tx)) (op : Operation) : Preserves P op.run := by
  have hreturn : ∀ tx, Preserves P (do send tx; return tx) :=
    fun tx => (hsend tx).bind fun _ => .pure _
  cases op with
  | prepare request => exact (hprepare request).map _
  | attach hash primary cosigner => exact (hamend hash _).map _
  | sign hash key cosigner => exact (hamend hash _).map _
  | submit hash =>
    refine Preserves.map _ ((Preserves.query _).bind fun tx => .ite
      ((Preserves.throw _).bind fun _ => ?_) ?_)
    · exact hreturn tx
    · exact hreturn tx
  | attachAndSubmit hash primary cosigner =>
    exact Preserves.map _ ((hamend hash _).bind fun tx => hreturn tx)
  | redact hash data params => exact (hamend hash _).map _
  | delete hash params => exact (hamend hash _).map _

theorem free_of_run (op : Operation) : Preserves (·.locks.IsFree) op.run :=
  preserves_run steady_free.stable.prepare (fun hash f => free_of_amend hash f) free_of_send op

theorem free_of_afterAll {l : Ledger} (h : l.locks.IsFree) (os : List Occurrence) :
    (l.afterAll os).locks.IsFree := by
  induction os generalizing l with
  | nil => exact h
  | cons o os ih =>
    apply ih
    cases o with
    | operation op => exact free_of_run op l h
    | supply draws => exact h
    | linkFault fault => exact h

end Ledger

end RedactableLedger
