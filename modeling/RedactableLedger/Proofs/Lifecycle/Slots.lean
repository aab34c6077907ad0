import RedactableLedger.Proofs.Lifecycle.Prepare
import RedactableLedger.Proofs.Lifecycle.Run

namespace RedactableLedger

open RedactableLedger.Action

variable {hash : TxHash} {tx tx' : Transaction} {d : Deed} {l : Ledger}

def Transaction.slots (tx : Transaction) : Signature × Signature := (tx.sig1, tx.sig2)

namespace Deed

def slots? (hash : TxHash) : Deed → Option (Signature × Signature)
  | signed other record => if other = hash then some record.slots else none
  | staged other _ => if other = hash then some (.empty, .empty) else none
  | nothing | redacted _ => none

@[simp] theorem slots?_signed_self (hash : TxHash) (record : Transaction) :
    (signed hash record).slots? hash = some record.slots := if_pos rfl

@[simp] theorem slots?_staged_self (hash : TxHash) (draft : Draft) :
    (staged hash draft).slots? hash = some (.empty, .empty) := if_pos rfl

theorem slots?_eq_none (h : hash ∉ d.staged?) (hsigned : ∀ record, d ≠ .signed hash record) :
    d.slots? hash = none := by
  cases d with
  | nothing => rfl
  | redacted r => rfl
  | signed other record =>
    refine if_neg ?_
    rintro rfl
    exact hsigned record rfl
  | staged other draft =>
    refine if_neg ?_
    rintro rfl
    exact h rfl

theorem not_staged_of_slots? (h : d.slots? hash = none) : hash ∉ d.staged? := by
  intro hstaged
  cases d with
  | staged other draft =>
    cases Option.mem_some.1 hstaged
    cases (slots?_staged_self hash draft).symm.trans h
  | _ => cases hstaged

theorem Rewrites.slots (h : d.Rewrites hash tx tx') :
    tx'.slots = (d.slots? hash).getD tx.slots := by
  cases h with
  | kept htouched =>
    have hstaged : hash ∉ d.staged? := fun he => htouched (mem_touched_of_staged he)
    have hsigned : ∀ record, d ≠ .signed hash record := by
      rintro record rfl
      exact htouched List.mem_cons_self
    rw [slots?_eq_none hstaged hsigned]
    rfl
  | signed hd _ =>
    rw [hd, slots?_signed_self]
    rfl
  | redacted hr _ hstaged hredacts =>
    have hsigned : ∀ record, d ≠ .signed hash record := by
      rintro record rfl
      cases hr
    rw [slots?_eq_none hstaged hsigned, hredacts.result]
    rfl
  | @staged draft hd hblank =>
    rw [hd, slots?_staged_self, Transaction.slots, hblank.sig1, hblank.sig2]
    rfl

end Deed

namespace Ledger

def lastSlots (hash : TxHash) (initial : Signature × Signature) (deeds : List Deed) :
    Signature × Signature :=
  (deeds.filterMap (·.slots? hash)).getLastD initial

theorem lastSlots_signed (hash : TxHash) (initial : Signature × Signature)
    (record : Transaction) :
    lastSlots hash initial [.signed hash record] = record.slots := by
  rw [lastSlots, List.filterMap_cons, Deed.slots?_signed_self]
  rfl

/-- After any run the slots of a staged record hold what was attached to it last, or nothing if
it was staged anew since. -/
theorem slots_of_run (l : Ledger) (os : List Occurrence)
    (hget : l.store.get hash = .ok (some tx)) (hfits : ∀ d ∈ l.deeds os, d.Fits) :
    ∃ t, (l.afterAll os).store.get hash = .ok (some t) ∧
      t.slots = lastSlots hash tx.slots (l.deeds os) := by
  induction os generalizing l tx with
  | nil => exact ⟨tx, hget, rfl⟩
  | cons o os ih =>
    obtain ⟨tx₁, hget₁, hrewrites⟩ :=
      (effect_of_deed l o).rewrites (hfits _ List.mem_cons_self) hget
    obtain ⟨t, hgett, hslots⟩ :=
      ih (l.after o) hget₁ fun d hd => hfits d (List.mem_cons_of_mem _ hd)
    refine ⟨t, hgett, ?_⟩
    rw [hslots, hrewrites.slots, deeds, lastSlots, lastSlots, getLastD_filterMap_cons]

def baseConfig : Occurrence :=
  .operation (.prepare (.changeConfig (configRequest baseKey .minimumFee 5 1)))

def baseConfigTx : Transaction := .unsigned 0 1 [] none (.config 3 5 0)

def ones : Signature := ⟨⟨List.replicate 64 1, List.length_replicate⟩⟩

def baseAttach : Occurrence := .operation (.attach baseConfigTx.contentHash ones none)

theorem deed_of_baseConfig (l : Ledger) :
    l.deed baseConfig = .staged baseConfigTx.contentHash ⟨baseConfigTx, none⟩ :=
  deed_of_config baseKey_isReadable (by decide) .minimumFee 5 l

theorem baseConfigTx_fits : baseConfigTx.Fits := ⟨by decide, trivial⟩

theorem deed_of_baseAttach (l : Ledger) :
    (l.after baseConfig).deed baseAttach =
      .signed baseConfigTx.contentHash { baseConfigTx with sig1 := ones } :=
  (deed_of_attach (staged_of_deed (deed_of_baseConfig l) baseConfigTx_fits).1 rfl).1

/-- A signature that was attached once is in its slot. -/
theorem attached_slots : ∃ t,
    ((Ledger.empty.after baseConfig).afterAll [baseAttach]).store.get baseConfigTx.contentHash =
      .ok (some t) ∧
    t.slots = (ones, .empty) := by
  have hget := (staged_of_deed (deed_of_baseConfig Ledger.empty) baseConfigTx_fits).1
  obtain ⟨t, hgett, hslots⟩ :=
    slots_of_run (Ledger.empty.after baseConfig) [baseAttach] hget (by
    intro d hd
    rw [deeds, deeds, List.mem_singleton] at hd
    rw [hd, deed_of_baseAttach]
    trivial)
  refine ⟨t, hgett, ?_⟩
  rw [hslots, deeds, deeds, deed_of_baseAttach, lastSlots_signed]
  rfl

theorem keeps_link_attach (hash : TxHash) (primary : Signature) (cosigner : Option Signature) :
    Keeps link (attach hash primary cosigner) := fun _ => rfl

/-- Submitting fails after the signatures were attached if broadcasts fail. -/
theorem outcome_of_attachAndSubmit {primary : Signature} {cosigner : Option Signature}
    {e : TransportFault} (hget : l.store.get hash = .ok (some tx))
    (hattach : tx.attach primary cosigner = .ok tx') (hfault : l.link.fault = some e) :
    ((attachAndSubmit hash primary cosigner).exec l).1 = .error (.transport e) := by
  obtain ⟨o, l₁, hexec⟩ : ∃ o l₁, (attach hash primary cosigner).exec l = (o, l₁) := ⟨_, _, rfl⟩
  have ho := outcome_of_attach hget hattach
  have hlink := keeps_link_attach hash primary cosigner l
  rw [hexec] at ho hlink
  dsimp only at ho
  subst ho
  have hsend : (send tx').exec l₁ =
      (.error (.transport e), { l₁ with link := l₁.link.hand tx'.frame false }) := by
    rw [send, broadcast, exec_of, hlink, hfault]
  rw [attachAndSubmit, exec_bind_ok hexec, exec_bind_error hsend]

def unlinked (l : Ledger) : Ledger := l.after (.linkFault (some .endedInHeader))

theorem store_unlinked (l : Ledger) : (unlinked l).store = l.store := rfl

theorem fault_unlinked (l : Ledger) : (unlinked l).link.fault = some .endedInHeader := rfl

/-- A signed change of settings becomes unsigned when the same change is prepared again, and
becomes signed by a submission that fails. -/
theorem slots_changed_otherwise :
    ((∃ t, (Ledger.empty.afterAll [baseConfig, baseAttach]).store.get baseConfigTx.contentHash =
        .ok (some t) ∧ t.isSigned = true) ∧
      ∃ t, (Ledger.empty.afterAll [baseConfig, baseAttach, baseConfig]).store.get
        baseConfigTx.contentHash = .ok (some t) ∧ t.isSigned = false) ∧
    ((attachAndSubmit baseConfigTx.contentHash ones none).exec
      (unlinked (Ledger.empty.after baseConfig))).1 =
        .error (.transport .endedInHeader) ∧
      ∃ t, ((unlinked (Ledger.empty.after baseConfig)).after
        (.operation (.attachAndSubmit baseConfigTx.contentHash ones none))).store.get
          baseConfigTx.contentHash = .ok (some t) ∧ t.isSigned = true := by
  have hget := (staged_of_deed (deed_of_baseConfig Ledger.empty) baseConfigTx_fits).1
  rw [← store_unlinked] at hget
  refine ⟨⟨?_, ?_⟩, ?_, ?_⟩
  · rw [afterAll_cons, afterAll_cons, afterAll_nil]
    exact ⟨_, signed_of_deed (deed_of_baseAttach Ledger.empty), by decide⟩
  · rw [afterAll_cons, afterAll_cons, afterAll_cons, afterAll_nil]
    exact ⟨_, (staged_of_deed (deed_of_baseConfig _) baseConfigTx_fits).1, by decide⟩
  · exact outcome_of_attachAndSubmit hget rfl (fault_unlinked _)
  · exact ⟨_, signed_of_deed (deed_of_attach hget rfl).2, by decide⟩

end Ledger

end RedactableLedger
