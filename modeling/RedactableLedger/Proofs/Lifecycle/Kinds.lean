import RedactableLedger.Proofs.Lifecycle.WellFormed
import RedactableLedger.Proofs.Store.Index

namespace RedactableLedger

open Store (Call)

variable {d : Deed} {s s' : Store} {hash : TxHash} {kind : TxKind} {c : Call}
  {calls : List Call} {past : List Deed} {l : Ledger}

/-- A deed stages a transaction of a kind under a hash, which identifies it. -/
def Deed.Stages (hash : TxHash) (kind : TxKind) (d : Deed) : Prop :=
  ∃ draft, d = staged hash draft ∧ draft.tx.id draft.params = .ok hash ∧ draft.tx.kind = kind

/-- A call puts a transaction under a hash that one of its kind was staged under. -/
def Store.Call.StagedBy (deeds : List Deed) (c : Call) : Prop :=
  ∃ hash tx, c = put hash tx ∧ tx.Fits ∧ ∃ d ∈ deeds, d.Stages hash tx.kind

/-- The calls are those of deeds that were done on an empty store. -/
structure Store.Records (calls : List Call) (deeds : List Deed) (s : Store) : Prop where
  store : s = Store.empty.callAll calls
  staged : ∀ c ∈ calls, c.StagedBy deeds

namespace Store

theorem Call.StagedBy.fits (h : c.StagedBy past) : c.Fits := by
  obtain ⟨hash, tx, rfl, hfits, _⟩ := h
  exact hfits

theorem Call.StagedBy.mono {later : List Deed} (h : c.StagedBy past) (hsub : past ⊆ later) :
    c.StagedBy later := by
  obtain ⟨hash, tx, hc, hfits, d, hd, hstages⟩ := h
  exact ⟨hash, tx, hc, hfits, d, hsub hd, hstages⟩

theorem Records.mono {later : List Deed} (h : Records calls past s) (hsub : past ⊆ later) :
    Records calls later s :=
  ⟨h.store, fun c hc => (h.staged c hc).mono hsub⟩

theorem Records.stages (h : Records calls past s) {tx : Transaction}
    (hload : s.load hash = .ok tx) :
    ∃ d ∈ past, d.Stages hash tx.kind := by
  have hget := load_eq_ok.1 hload
  rw [h.store, get_callAll fun c hc => (h.staged c hc).fits] at hget
  obtain ⟨c, hc, hrecord⟩ := Call.exists_of_last? (Except.ok.inj hget)
  obtain ⟨_, _, hput, _, hstaged⟩ := h.staged c hc
  cases (Call.record?_eq_some.1 hrecord).symm.trans hput
  exact hstaged

theorem Records.put (h : Records calls past s) {tx : Transaction} (hfits : tx.Fits)
    (hstages : ∃ d ∈ past, d.Stages hash tx.kind) :
    Records (calls ++ [.put hash tx]) past (s.put hash tx) where
  store := by
    rw [callAll_append, ← h.store]
    rfl
  staged c hc := by
    rcases List.mem_append.1 hc with hold | hnew
    · exact h.staged c hold
    · exact ⟨hash, tx, List.mem_singleton.1 hnew, hfits, hstages⟩

end Store

open Store (Records)

theorem Redaction.Replaces.records {r : Redaction} {cs : CheckString} (h : r.Replaces s cs s')
    (hrecords : Records calls past s) (hfits : Layout.Fits r.data) :
    ∃ calls', Records calls' past s' := by
  obtain ⟨tx, redacted, hload, hredacts, rfl⟩ := h
  have hstages := hrecords.stages hload
  rw [← hredacts.terms.kind] at hstages
  exact ⟨_, hrecords.put (hredacts.fits (Store.fits_of_load hload) hfits) hstages⟩

/-- What a deed does to the store are calls, of records of kinds that were staged. -/
theorem Effect.records (h : Effect s d s') (hrecords : Records calls past s) (hfits : d.Fits) :
    ∃ calls', Records calls' (past ++ [d]) s' := by
  have hold := hrecords.mono (List.subset_append_left past [d])
  have hmem : d ∈ past ++ [d] := List.mem_append_right past (.head _)
  cases h with
  | nothing => exact ⟨_, hold⟩
  | signed hload hsigns =>
    have hstages := hold.stages hload
    rw [← hsigns.terms.kind] at hstages
    exact ⟨_, hold.put (hsigns.fits (Store.fits_of_load hload)) hstages⟩
  | redacted hreplaces => exact hreplaces.records hold hfits
  | staged hid _ _ => exact ⟨_, hold.put hfits ⟨_, hmem, _, rfl, hid, rfl⟩⟩
  | announced hid _ _ hbody hreplaces =>
    have hdata := hfits.2
    rw [hbody] at hdata
    obtain ⟨calls', hcalls'⟩ := hreplaces.records hold hdata
    exact ⟨_, hcalls'.put hfits ⟨_, hmem, _, rfl, hid, rfl⟩⟩

namespace Ledger

theorem recorded_of_run (os : List Occurrence) (hrecords : Records calls past l.store)
    (hfits : ∀ o ∈ os, o.Fits) :
    ∃ calls', Records calls' (past ++ l.deeds os) (l.afterAll os).store := by
  induction os generalizing l past calls with
  | nil => exact ⟨calls, hrecords.mono (List.subset_append_left past [])⟩
  | cons o os ih =>
    obtain ⟨calls₁, hrecords₁⟩ :=
      (effect_of_deed l o).records hrecords (fits_of_deed (hfits o (.head _)))
    obtain ⟨calls₂, hrecords₂⟩ := ih hrecords₁ fun o' ho' => hfits o' (.tail _ ho')
    rw [List.append_assoc] at hrecords₂
    exact ⟨calls₂, hrecords₂⟩

/-- Two drafts of different kinds were staged under one hash, which identifies both. -/
def KindsCollide (deeds : List Deed) : Prop :=
  ∃ hash, ∃ a ∈ deeds, ∃ b ∈ deeds, ∃ kind kind', a.Stages hash kind ∧ b.Stages hash kind' ∧
    kind ≠ kind'

theorem oneKind_or_collide {deeds : List Deed} (h : Records calls deeds s) :
    Store.OneKind calls ∨ KindsCollide deeds := by
  apply Classical.or_iff_not_imp_right.2
  intro hnone hash a b ha hb
  apply Classical.byContradiction
  intro hkinds
  obtain ⟨_, _, hput, _, d, hd, hstages⟩ := h.staged _ ha
  cases hput
  obtain ⟨_, _, hput', _, d', hd', hstages'⟩ := h.staged _ hb
  cases hput'
  exact hnone ⟨hash, d, hd, d', hd', _, _, hstages, hstages', hkinds⟩

/-- What a run from an empty store leaves there are calls of transactions, none of which put a
hash with two kinds unless identifiers collide. -/
theorem calls_of_run (os : List Occurrence) (hempty : l.store = .empty)
    (hfits : ∀ o ∈ os, o.Fits) :
    ∃ calls, (∀ c ∈ calls, c.Fits) ∧ (l.afterAll os).store = Store.empty.callAll calls ∧
      (Store.OneKind calls ∨ KindsCollide (l.deeds os)) := by
  have hstart : Records [] [] l.store := ⟨hempty, fun _ hc => absurd hc List.not_mem_nil⟩
  obtain ⟨calls, hrecords⟩ := recorded_of_run os hstart hfits
  exact ⟨calls, fun c hc => (hrecords.staged c hc).fits, hrecords.store,
    oneKind_or_collide hrecords⟩

end Ledger

/-- After any calls the store is the map of what was put last, its namespaces are apart, and the
index tells no more than the records do while no hash is put with two kinds, as runs of the
lifecycle do not. -/
theorem Store.map_of_calls (calls : List Call) (hfits : ∀ c ∈ calls, c.Fits) :
    (Store.empty.callAll calls).Refines calls ∧
      ((∀ a b : TreeName, a.bucket = b.bucket → a = b) ∧ ∀ s c, Store.Spares s c) ∧
      (Store.OneKind calls → (Store.empty.callAll calls).Indexed calls) ∧
      ∀ (l : Ledger) (os : List Occurrence), l.store = .empty → (∀ o ∈ os, o.Fits) →
        ∃ puts, (∀ c ∈ puts, c.Fits) ∧ (l.afterAll os).store = Store.empty.callAll puts ∧
          (Store.OneKind puts ∨ Ledger.KindsCollide (l.deeds os)) := by
  refine ⟨refines_callAll hfits, ⟨?_, spares⟩, indexed_callAll hfits, ?_⟩
  · intro a b
    exact TreeName.bucket_injective
  intro l os hempty hoccurrences
  exact Ledger.calls_of_run os hempty hoccurrences

namespace Store

def baseHeader : BlockHeader := .new 1 (Octets.zero 32) 0 (Octets.zero 32) 1

/-- A change of settings that is put twice, and a header that is the last one. -/
def baseCalls : List Call :=
  [.put Ledger.baseConfigTx.contentHash Ledger.baseConfigTx, .putBlockHeader baseHeader,
    .putLastBlockHeader baseHeader, .put Ledger.baseConfigTx.contentHash Ledger.baseConfigTx]

theorem baseCalls_fits : ∀ c ∈ baseCalls, c.Fits := by
  intro c hc
  simp only [baseCalls, List.mem_cons, List.not_mem_nil, or_false] at hc
  rcases hc with rfl | rfl | rfl | rfl
  · exact Ledger.baseConfigTx_fits
  · trivial
  · trivial
  · exact Ledger.baseConfigTx_fits

theorem baseCalls_oneKind : OneKind baseCalls := by
  have hkind : ∀ hash tx, .put hash tx ∈ baseCalls → tx = Ledger.baseConfigTx := by
    intro hash tx hmem
    simp only [baseCalls, List.mem_cons, Call.put.injEq, reduceCtorEq, List.not_mem_nil,
      or_false, false_or] at hmem
    rcases hmem with h | h <;> exact h.2
  intro hash a b ha hb
  rw [hkind hash a ha, hkind hash b hb]

/-- The two calls of one hash leave one record, which is found without the index. -/
theorem map_of_baseCalls :
    (empty.callAll baseCalls).get Ledger.baseConfigTx.contentHash =
      .ok (some Ledger.baseConfigTx) ∧
      (empty.callAll baseCalls).transactionCount = 1 ∧
      (∀ keys, ((empty.callAll baseCalls).unindexed keys).get Ledger.baseConfigTx.contentHash =
        .ok (some Ledger.baseConfigTx)) ∧
      (empty.callAll baseCalls).getLastBlockHeader = .ok (some baseHeader) := by
  obtain ⟨hrefines, _, hindexed, _⟩ := map_of_calls baseCalls baseCalls_fits
  have hget : (empty.callAll baseCalls).get Ledger.baseConfigTx.contentHash =
      .ok (some Ledger.baseConfigTx) := by
    rw [hrefines.get]
    simp [Call.last?, baseCalls, Call.record?]
  have hindexed := hindexed baseCalls_oneKind
  refine ⟨hget, ?_, fun keys => ?_, ?_⟩
  · have hhashes : hashes baseCalls =
        [Ledger.baseConfigTx.contentHash, Ledger.baseConfigTx.contentHash] := rfl
    rw [hindexed.transactionCount, hhashes]
    simp
  · rw [hindexed.get_unindexed, hget]
  · rw [hrefines.getLastBlockHeader]
    rfl

end Store

end RedactableLedger
