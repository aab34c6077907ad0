import RedactableLedger.Proofs.Lifecycle.Deed

namespace RedactableLedger

namespace Deed

def touched : Deed → List TxHash
  | nothing => []
  | signed hash _ => [hash]
  | redacted r => [r.target]
  | staged hash draft => hash :: draft.redaction?.toList.map (·.target)

/-- The data that a deed puts into the record of a hash by redacting it. -/
def payload? (hash : TxHash) (d : Deed) : Option Bytes :=
  (d.redaction?.filter (·.target = hash)).map (·.data)

/-- What a deed makes of the record of a hash. -/
inductive Rewrites (d : Deed) (hash : TxHash) (tx : Transaction) : Transaction → Prop
  | kept (htouched : hash ∉ d.touched) : Rewrites d hash tx tx
  | signed {record : Transaction} (hd : d = .signed hash record) (hsigns : tx.Signs record) :
      Rewrites d hash tx record
  | redacted {record : Transaction} (hr : r ∈ d.redaction?) (htarget : r.target = hash)
      (hstaged : hash ∉ d.staged?) (hredacts : tx.Redacts hash r.data r.params cs record) :
      Rewrites d hash tx record
  | staged {draft : Draft} (hd : d = .staged hash draft) (hblank : draft.tx.IsBlank) :
      Rewrites d hash tx draft.tx

theorem target_mem_touched {d : Deed} {r : Redaction} (h : r ∈ d.redaction?) :
    r.target ∈ d.touched := by
  cases d with
  | nothing => cases h
  | signed hash record => cases h
  | redacted r' =>
    cases h
    exact List.mem_cons_self
  | staged hash draft =>
    refine List.mem_cons_of_mem _ (List.mem_map.2 ⟨r, Option.mem_toList.2 h, rfl⟩)

theorem payload?_of_redaction {d : Deed} {r : Redaction} {hash : TxHash} (h : r ∈ d.redaction?)
    (ht : r.target = hash) : d.payload? hash = some r.data := by
  rw [payload?, Option.mem_def.1 h, Option.filter_some, if_pos (by simpa using ht)]
  rfl

theorem mem_touched_of_staged {d : Deed} {hash : TxHash} (h : hash ∈ d.staged?) :
    hash ∈ d.touched := by
  cases d with
  | nothing => cases h
  | signed other record => cases h
  | redacted r => cases h
  | staged other draft =>
    cases h
    exact List.mem_cons_self

end Deed

variable {hash : TxHash} {tx tx' : Transaction} {r : Redaction} {cs : CheckString} {d : Deed}
  {s s' : Store} {l : Ledger}

theorem Transaction.Redacts.fits {params : ChameleonParams} {redacted : Transaction}
    {content : Bytes} (h : tx.Redacts hash content params cs redacted) (htx : tx.Fits)
    (hc : Layout.Fits content) : redacted.Fits := by
  refine h.terms.fits htx ?_
  rw [h.result]
  exact hc

theorem Transaction.Signs.fits {signed : Transaction} (h : tx.Signs signed) (htx : tx.Fits) :
    signed.Fits := by
  refine h.terms.fits htx ?_
  rw [h.data]
  exact htx.1

theorem Redaction.Replaces.record (h : r.Replaces s cs s')
    (hget : s.get r.target = .ok (some tx)) (hfits : Layout.Fits r.data) :
    ∃ tx', s'.get r.target = .ok (some tx') ∧ tx.Redacts r.target r.data r.params cs tx' := by
  obtain ⟨old, redacted, hload, hredacts, rfl⟩ := h
  cases hget.symm.trans (Store.load_eq_ok.1 hload)
  exact ⟨redacted, s.get_put_self _ (hredacts.fits (Store.fits_of_get hget) hfits), hredacts⟩

theorem Redaction.Replaces.frame (h : r.Replaces s cs s') (hne : hash ≠ r.target) :
    s'.get hash = s.get hash := by
  obtain ⟨_, redacted, _, _, rfl⟩ := h
  exact s.get_put_of_ne hne redacted

theorem Effect.frame (h : Effect s d s') (hd : hash ∉ d.touched) :
    s'.get hash = s.get hash := by
  cases h with
  | nothing => rfl
  | signed _ _ => exact s.get_put_of_ne (List.ne_of_not_mem_cons hd) _
  | redacted hreplaces => exact hreplaces.frame (List.ne_of_not_mem_cons hd)
  | staged _ _ _ => exact s.get_put_of_ne (List.ne_of_not_mem_cons hd) _
  | announced _ _ hr _ hreplaces =>
    rw [Store.get_put_of_ne _ (List.ne_of_not_mem_cons hd)]
    refine hreplaces.frame fun he => hd ?_
    rw [he]
    exact Deed.target_mem_touched hr

/-- A staged record stays staged, and is rewritten as the deed says. -/
theorem Effect.rewrites (h : Effect s d s') (hfits : d.Fits)
    (hget : s.get hash = .ok (some tx)) :
    ∃ tx', s'.get hash = .ok (some tx') ∧ d.Rewrites hash tx tx' := by
  by_cases htouched : hash ∈ d.touched
  · cases h with
    | nothing => cases htouched
    | @signed old record other hload hsigns =>
      cases List.mem_singleton.1 htouched
      cases hget.symm.trans (Store.load_eq_ok.1 hload)
      exact ⟨record, s.get_put_self hash (hsigns.fits (Store.fits_of_get hget)),
        .signed rfl hsigns⟩
    | redacted hreplaces =>
      cases List.mem_singleton.1 htouched
      obtain ⟨tx', hget', hredacts⟩ := hreplaces.record hget hfits
      exact ⟨tx', hget', .redacted rfl rfl (Option.not_mem_none _) hredacts⟩
    | @staged draft other _ hblank hr =>
      rw [Deed.touched, hr] at htouched
      cases List.mem_singleton.1 htouched
      exact ⟨draft.tx, s.get_put_self hash hfits, .staged rfl hblank⟩
    | @announced r draft cs issuer s₁ other _ hblank hr hbody hreplaces =>
      -- an announcement that is staged under the hash it redacted replaces the redacted record
      by_cases ho : hash = other
      · cases ho
        exact ⟨draft.tx, s₁.get_put_self hash hfits, .staged rfl hblank⟩
      · rw [Deed.touched, hr, List.mem_cons] at htouched
        cases List.mem_singleton.1 (htouched.resolve_left ho)
        have hdata : Layout.Fits r.data := by
          have hb := hfits.2
          rw [hbody] at hb
          exact hb
        obtain ⟨tx', hget', hredacts⟩ := hreplaces.record hget hdata
        refine ⟨tx', ?_, .redacted hr rfl (fun he => ho (Option.some.inj he).symm) hredacts⟩
        rw [s₁.get_put_of_ne ho, hget']
  · exact ⟨tx, (h.frame htouched).trans hget, .kept htouched⟩

theorem getLastD_filterMap_cons {α β : Type} (f : α → Option β) (a : α) (as : List α) (b : β) :
    ((a :: as).filterMap f).getLastD b = (as.filterMap f).getLastD ((f a).getD b) := by
  rw [List.filterMap_cons]
  cases f a with
  | none => rfl
  | some c => exact List.getLastD_cons ..

namespace Ledger

theorem staged_of_deed {o : Occurrence} {draft : Draft} (hdeed : l.deed o = .staged hash draft)
    (hfits : draft.tx.Fits) :
    (l.after o).store.get hash = .ok (some draft.tx) ∧ draft.tx.id draft.params = .ok hash ∧
      draft.tx.IsBlank := by
  have heffect := effect_of_deed l o
  rw [hdeed] at heffect
  generalize (l.after o).store = s' at heffect
  cases heffect with
  | staged hid hblank => exact ⟨Store.get_put_self _ _ hfits, hid, hblank⟩
  | announced hid hblank => exact ⟨Store.get_put_self _ _ hfits, hid, hblank⟩

theorem signed_of_deed {o : Occurrence} {record : Transaction}
    (hdeed : l.deed o = .signed hash record) :
    (l.after o).store.get hash = .ok (some record) := by
  have heffect := effect_of_deed l o
  rw [hdeed] at heffect
  generalize (l.after o).store = s' at heffect
  cases heffect with
  | signed hload hsigns =>
    exact Store.get_put_self _ _ (hsigns.fits (Store.fits_of_load hload))

theorem record_of_run {motive : Transaction → Prop} (os : List Occurrence)
    (hget : l.store.get hash = .ok (some tx)) (hfits : ∀ d ∈ l.deeds os, d.Fits)
    (hstep : ∀ d ∈ l.deeds os, ∀ a b, d.Rewrites hash a b → motive a → motive b)
    (htx : motive tx) : ∃ t, (l.afterAll os).store.get hash = .ok (some t) ∧ motive t := by
  induction os generalizing l tx with
  | nil => exact ⟨tx, hget, htx⟩
  | cons o os ih =>
    obtain ⟨tx₁, hget₁, hrewrites⟩ :=
      (effect_of_deed l o).rewrites (hfits _ List.mem_cons_self) hget
    have htx₁ := hstep _ List.mem_cons_self _ _ hrewrites htx
    exact ih hget₁ (fun d hd => hfits d (List.mem_cons_of_mem _ hd))
      (fun d hd => hstep d (List.mem_cons_of_mem _ hd)) htx₁

end Ledger

end RedactableLedger
