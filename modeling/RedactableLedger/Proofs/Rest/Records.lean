import RedactableLedger.Proofs.Lifecycle.WellFormed
import RedactableLedger.Proofs.Rest.Broadcast

namespace RedactableLedger

def Store.Has (s : Store) (hash : TxHash) : Prop := ∃ tx, s.get hash = .ok (some tx)

theorem Ledger.has_of_after {l : Ledger} {o : Occurrence} {hash : TxHash} (hfits : o.Fits)
    (h : l.store.Has hash) :
    (l.after o).store.Has hash := by
  obtain ⟨tx, hget⟩ := h
  obtain ⟨tx', hget', _⟩ := (effect_of_deed l o).rewrites (fits_of_deed hfits) hget
  exact ⟨tx', hget'⟩

namespace Server

/-- What is stored is sound, and what was broadcast is well-formed and has a record under the
key that it must have. -/
structure Sound (s : Server) : Prop where
  store : s.store.Sound
  broadcasts : ∀ d ∈ s.broadcasts, ∃ hash tx,
    Layout.transaction.decode d.frame.payload = .ok (tx, []) ∧
      tx.WellFormed ∧ tx.Keyed hash ∧ s.store.Has hash

variable {s : Server} {e : Event} {hash : TxHash}

/-- What every operation keeps of the store is kept at every event. -/
theorem store_of_after {P : Store → Prop} (hfits : e.Fits) (h : P s.store)
    (hstep : ∀ (l : Ledger) (op : Operation), op.Fits → P l.store →
      P (l.after (.operation op)).store) :
    P (s.after e).store := by
  obtain ⟨l, hbefore, hafter⟩ := ledger_of_after s e
  have hl : P l.store := by
    rw [hbefore.store]
    exact h
  rw [store, hafter.store]
  cases he : e.operation? with
  | none => exact hl
  | some op => exact hstep l op (hfits op he) hl

theorem storeSound_of_after (hfits : e.Fits) (h : s.store.Sound) : (s.after e).store.Sound :=
  store_of_after hfits h fun _ op hop hl => Ledger.sound_of_after (o := .operation op) hl hop

theorem has_of_after (hfits : e.Fits) (h : s.store.Has hash) : (s.after e).store.Has hash :=
  store_of_after (P := (·.Has hash)) hfits h fun _ op hop hl =>
    Ledger.has_of_after (o := .operation op) hop hl

theorem sound_of_after (hfits : e.Fits) (h : s.Sound) : (s.after e).Sound := by
  have hstore := storeSound_of_after hfits h.store
  refine ⟨hstore, fun d hd => ?_⟩
  rw [broadcasts_append_sent, List.mem_append] at hd
  rcases hd with hbefore | hsent
  · obtain ⟨hash, tx, hdecode, hwell, hkeyed, hhas⟩ := h.broadcasts d hbefore
    exact ⟨hash, tx, hdecode, hwell, hkeyed, has_of_after hfits hhas⟩
  · obtain hnone | ⟨d', hash, tx, hone, hcarries⟩ := sent_of_after s e
    · rw [hnone] at hsent
      cases hsent
    · rw [hone] at hsent
      cases List.mem_singleton.1 hsent
      have hholds := hstore.holds hcarries.stored
      exact ⟨hash, tx, hcarries.payload, hholds.wellFormed, hholds.keyed, tx, hcarries.stored⟩

theorem kept_of_run {P : Server → Prop}
    (hstep : ∀ (s : Server) (e : Event), e.Fits → P s → P (s.after e)) {es : List Event}
    (hfits : ∀ e ∈ es, e.Fits) (h : P s) : P (s.afterAll es) := by
  induction es generalizing s with
  | nil => exact h
  | cons e es ih =>
    have hafter := hstep s e (hfits e List.mem_cons_self) h
    exact ih (fun e' he' => hfits e' (List.mem_cons_of_mem _ he')) hafter

/-- A front end that began with no record and no broadcast is sound after any run, and has a
record under every hash that had one at any time in it. -/
theorem records_of_run (s : Server) (hstore : s.store = .empty)
    (hbroadcasts : s.broadcasts = []) (es : List Event) (hfits : ∀ e ∈ es, e.Fits) :
    (s.afterAll es).Sound ∧
      ∀ before later, es = before ++ later → ∀ hash, (s.afterAll before).store.Has hash →
        (s.afterAll es).store.Has hash := by
  constructor
  · refine kept_of_run (P := Sound) (fun _ _ => sound_of_after) hfits ⟨?_, fun d hd => ?_⟩
    · rw [hstore]
      exact Store.sound_empty
    · rw [hbroadcasts] at hd
      cases hd
  · rintro before later rfl hash hhas
    have hlater : ∀ e ∈ later, e.Fits := fun e he => hfits e (List.mem_append_right _ he)
    rw [afterAll, List.foldl_append]
    exact kept_of_run (P := (·.store.Has hash)) (fun _ _ => has_of_after) hlater hhas

/-- The record of a change of settings that was submitted is as it must be. -/
theorem baseConfig_record : ∃ tx,
    ((ofLedger .empty).afterAll (unsignedSubmission.map .occurrence)).store.Holds
      Ledger.baseConfigTx.contentHash tx := by
  have hfits : ∀ e ∈ unsignedSubmission.map Event.occurrence, e.Fits := by
    intro e he
    obtain ⟨o, ho, rfl⟩ := List.mem_map.1 he
    rcases List.mem_cons.1 ho with rfl | ho
    · intro op hop
      cases hop
      intro text htext
      cases htext
    · cases List.mem_singleton.1 ho
      intro op hop
      cases hop
      trivial
  obtain ⟨hsound, hkept⟩ :=
    records_of_run (ofLedger .empty) rfl rfl (unsignedSubmission.map .occurrence) hfits
  have hget :=
    (Ledger.staged_of_deed (Ledger.deed_of_baseConfig Ledger.empty) Ledger.baseConfigTx_fits).1
  have hhas : ((ofLedger .empty).afterAll [.occurrence Ledger.baseConfig]).store.Has
      Ledger.baseConfigTx.contentHash := by
    rw [store, ← List.map_singleton, ledger_of_occurrences, ledger_ofLedger,
      Ledger.afterAll_cons, Ledger.afterAll_nil]
    exact ⟨_, hget⟩
  obtain ⟨tx, hlast⟩ := hkept _ _ rfl Ledger.baseConfigTx.contentHash hhas
  exact ⟨tx, hsound.store.holds hlast⟩

end Server

end RedactableLedger
