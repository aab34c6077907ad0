import RedactableLedger.Proofs.Lifecycle.Slots
import RedactableLedger.Proofs.Lifecycle.Submit

namespace RedactableLedger

open RedactableLedger.Action

/-- Of what is got, exactly the given records are new, where the first one of a hash counts. -/
def Store.Updates (s s' : Store) (records : List (TxHash × Transaction)) : Prop :=
  ∀ hash, s'.get hash =
    match records.lookup hash with
    | some tx => .ok (some tx)
    | none => s.get hash

namespace Operation

/-- The records that an operation leaves in a store when it succeeds with an answer. -/
inductive Leaves (s : Store) : Operation → Answer → List (TxHash × Transaction) → Prop
  | prepared {p : Prepared} (hrequest : request.update? = none) :
      Leaves s (.prepare request) (.prepared p) [(p.hash, p.tx)]
  | announced {p : Prepared} (hrequest : request.update? = some a)
      (htarget : txHashOfHex (Text.trim a.txHash) = .ok target) (hload : s.load target = .ok tx)
      (hredact : tx.redact target (Bytes.ofText a.newData) params = .ok (cs, redacted))
      (hbody : p.tx.body = .update target cs (Bytes.ofText a.newData) issuer) :
      Leaves s (.prepare request) (.prepared p) [(p.hash, p.tx), (target, redacted)]
  | attached {hash : TxHash} (hload : s.load hash = .ok tx)
      (hattach : tx.attach primary cosigner = .ok record) :
      Leaves s (.attach hash primary cosigner) (.record record) [(hash, record)]
  | signed {hash : TxHash} (hload : s.load hash = .ok tx)
      (hsign : tx.sign hash key cosigner = .ok record) :
      Leaves s (.sign hash key cosigner) (.record record) [(hash, record)]
  | submitted {hash : TxHash} (hload : s.load hash = .ok tx) :
      Leaves s (.submit hash) (.record tx) []
  | sent {hash : TxHash} (hload : s.load hash = .ok tx)
      (hattach : tx.attach primary cosigner = .ok record) :
      Leaves s (.attachAndSubmit hash primary cosigner) (.record record) [(hash, record)]
  | redacted {hash : TxHash} (hload : s.load hash = .ok tx)
      (hredact : tx.redact hash data params = .ok (cs, redacted)) :
      Leaves s (.redact hash data params) (.checkString cs) [(hash, redacted)]
  | deleted {hash : TxHash} (hload : s.load hash = .ok tx)
      (hredact : tx.redact hash [] params = .ok (cs, redacted)) :
      Leaves s (.delete hash params) (.checkString cs) [(hash, redacted)]

/-- The operation whose effect stays when an operation fails: attaching, if only the broadcast
after it failed. -/
def remains? : Operation → Fault → Option Operation
  | attachAndSubmit hash primary cosigner, .transport _ => some (.attach hash primary cosigner)
  | _, _ => none

def hash? : Operation → Option TxHash
  | prepare _ => none
  | attach hash _ _ | sign hash _ _ | submit hash | attachAndSubmit hash _ _ => some hash
  | redact hash _ _ | delete hash _ => some hash

/-- An operation on a ledger has its whole effect or none. -/
structure AllOrNothing (op : Operation) (l : Ledger) : Prop where
  done : ∀ answer, (op.run.exec l).1 = .ok answer →
    ∃ records, op.Leaves l.store answer records ∧
      l.store.Updates (l.after (.operation op)).store records
  failed : ∀ e, (op.run.exec l).1 = .error e → op.remains? e = none →
    (l.after (.operation op)).store = l.store
  unsent : ∀ e first, (op.run.exec l).1 = .error e → op.remains? e = some first →
    (∃ answer, (first.run.exec l).1 = .ok answer) ∧
      (l.after (.operation op)).store = (l.after (.operation first)).store
  submitted : ∀ hash, op = .submit hash → (l.after (.operation op)).store = l.store
  absent : ∀ hash, op.hash? = some hash → l.store.get hash = .ok none →
    (op.run.exec l).1 = .error (.notFound hash)
  unlocked : (l.after (.operation op)).locks.IsFree

end Operation

variable {hash : TxHash} {tx record redacted : Transaction} {s s' s₁ : Store} {l : Ledger}
  {e : Fault} {primary : Signature} {cosigner : Option Signature}
  {records : List (TxHash × Transaction)} {data : Bytes} {op : Operation}
  {answer : Operation.Answer}

theorem Store.Updates.refl (s : Store) : s.Updates s [] := fun _ => rfl

theorem Store.Updates.put (h : s.Updates s₁ records) (hash : TxHash) (hfits : tx.Fits) :
    s.Updates (s₁.put hash tx) ((hash, tx) :: records) := by
  intro other
  by_cases ho : other = hash
  · subst ho
    rw [List.lookup_cons_self, s₁.get_put_self other hfits]
  · have hbeq : (other == hash) = false := beq_false_of_ne ho
    rw [List.lookup_cons, hbeq, s₁.get_put_of_ne ho, h other]

theorem Transaction.fits_of_attach (h : tx.attach primary cosigner = .ok record)
    (htx : tx.Fits) :
    record.Fits :=
  (Transaction.signs_of_attach h).fits htx

theorem Transaction.fits_of_redact (h : tx.redact hash data params = .ok (cs, redacted))
    (htx : tx.Fits) (hdata : Layout.Fits data) : redacted.Fits :=
  (Transaction.redacts_of_redact h).fits htx hdata

theorem Effect.eq_of_nothing (h : Effect s .nothing s') : s' = s := by
  cases h
  rfl

namespace Ledger

theorem updates_of_signing {g : Transaction → Outcome Transaction} {l' : Ledger}
    (h : (amend hash fun tx => do let signed ← g tx; return (signed, signed)).exec l =
      (.ok record, l'))
    (hfits : ∀ tx, g tx = .ok record → tx.Fits → record.Fits) :
    ∃ tx, l.store.load hash = .ok tx ∧ g tx = .ok record ∧
      l.store.Updates l'.store [(hash, record)] := by
  obtain ⟨tx, hload, hg, hstore⟩ := record_of_signing h
  refine ⟨tx, hload, hg, ?_⟩
  rw [hstore]
  exact (Store.Updates.refl _).put hash (hfits tx hg (Store.fits_of_load hload))

theorem updates_of_attach {l' : Ledger}
    (h : (attach hash primary cosigner).exec l = (.ok record, l')) :
    ∃ tx, l.store.load hash = .ok tx ∧ tx.attach primary cosigner = .ok record ∧
      l.store.Updates l'.store [(hash, record)] :=
  updates_of_signing h fun _ hattach htx => Transaction.fits_of_attach hattach htx

theorem updates_of_sign {key : PrivateKey} {second : Option PrivateKey} {l' : Ledger}
    (h : (sign hash key second).exec l = (.ok record, l')) :
    ∃ tx, l.store.load hash = .ok tx ∧ tx.sign hash key second = .ok record ∧
      l.store.Updates l'.store [(hash, record)] := by
  refine updates_of_signing h fun tx hsign htx => ?_
  obtain ⟨first, second, hattach⟩ := Transaction.attach_of_sign hsign
  exact Transaction.fits_of_attach hattach htx

theorem load_of_submit {l' : Ledger} (h : (submit hash).exec l = (.ok tx, l')) :
    l.store.load hash = .ok tx ∧ l'.store = l.store := by
  rw [exec_submit] at h
  split at h
  · cases h
  · rename_i record hload
    split at h
    · obtain ⟨hreport, rfl⟩ := Prod.ext_iff.1 h
      cases Link.eq_of_report hreport
      exact ⟨hload, rfl⟩
    · cases h

theorem updates_of_redact {l' : Ledger} (h : (redact hash data params).exec l = (.ok cs, l'))
    (hdata : Layout.Fits data) :
    ∃ tx redacted, l.store.load hash = .ok tx ∧
      tx.redact hash data params = .ok (cs, redacted) ∧
      l.store.Updates l'.store [(hash, redacted)] := by
  obtain ⟨tx, redacted, hload, hredact, hstore⟩ := store_of_amend_ok h
  refine ⟨tx, redacted, hload, hredact, ?_⟩
  rw [hstore]
  exact (Store.Updates.refl _).put hash
    (Transaction.fits_of_redact hredact (Store.fits_of_load hload) hdata)

theorem leaves_of_prepare {request : Preparation} {p : Prepared} {l' : Ledger}
    (hfits : request.Fits) (h : request.run.exec l = (.ok p, l')) :
    ∃ records, (Operation.prepare request).Leaves l.store (.prepared p) records ∧
      l.store.Updates l'.store records := by
  obtain ⟨draft, _, hdrafts, htx, heffect⟩ := staged_of_run h
  have hdraft : draft.tx.Fits := hdrafts.fits hfits
  generalize l'.store = s' at heffect ⊢
  cases heffect with
  | staged _ _ hr =>
    obtain ⟨hrequest, _⟩ | ⟨_, _, _, _, _, _, _, _, hsome⟩ := hdrafts.redaction
    · rw [htx] at hdraft ⊢
      exact ⟨_, .prepared hrequest, (Store.Updates.refl _).put _ hdraft⟩
    · rw [hr] at hsome
      cases hsome
  | announced _ _ hr hbody hreplaces =>
    obtain ⟨_, hnone⟩ | ⟨a, target, cs, issuer, params, hrequest, htarget, hbody', hsome⟩ :=
      hdrafts.redaction
    · rw [hr] at hnone
      cases hnone
    · rw [hr] at hsome
      cases hsome
      rw [hbody] at hbody'
      cases hbody'
      obtain ⟨tx, redacted, hload, hredacts, rfl⟩ := hreplaces
      have hdata : Layout.Fits (Bytes.ofText a.newData) := by
        have hfitsBody := hdraft.2
        rwa [hbody] at hfitsBody
      have hredacted : redacted.Fits := hredacts.fits (Store.fits_of_load hload) hdata
      -- the announcement was put last, so it wins where its own hash is that of the target
      rw [htx] at hdraft hbody ⊢
      exact ⟨_, .announced hrequest htarget hload
        (Transaction.redact_of_redacts hredacts) hbody,
        ((Store.Updates.refl _).put _ hredacted).put _ hdraft⟩

theorem leaves_of_run {l' : Ledger} (hfits : op.Fits) (h : op.run.exec l = (.ok answer, l')) :
    ∃ records, op.Leaves l.store answer records ∧ l.store.Updates l'.store records := by
  cases op with
  | prepare request =>
    obtain ⟨p, hrun, rfl⟩ := exec_map_ok h
    exact leaves_of_prepare hfits hrun
  | attach hash primary cosigner =>
    obtain ⟨record, hrun, rfl⟩ := exec_map_ok h
    obtain ⟨tx, hload, hattach, hupdates⟩ := updates_of_attach hrun
    exact ⟨_, .attached hload hattach, hupdates⟩
  | sign hash key cosigner =>
    obtain ⟨record, hrun, rfl⟩ := exec_map_ok h
    obtain ⟨tx, hload, hsign, hupdates⟩ := updates_of_sign hrun
    exact ⟨_, .signed hload hsign, hupdates⟩
  | submit hash =>
    obtain ⟨record, hrun, rfl⟩ := exec_map_ok h
    obtain ⟨hload, hstore⟩ := load_of_submit hrun
    rw [hstore]
    exact ⟨[], .submitted hload, .refl _⟩
  | attachAndSubmit hash primary cosigner =>
    obtain ⟨record, hrun, rfl⟩ := exec_map_ok h
    obtain ⟨e, _, hr⟩ | ⟨signed, l₁, hattach, hr, rfl⟩ := attach_of_attachAndSubmit hrun
    · cases hr
    · cases Link.eq_of_report hr.symm
      obtain ⟨tx, hload, hrecord, hupdates⟩ := updates_of_attach hattach
      exact ⟨_, .sent hload hrecord, hupdates⟩
  | redact hash data params =>
    obtain ⟨cs, hrun, rfl⟩ := exec_map_ok h
    obtain ⟨tx, redacted, hload, hredact, hupdates⟩ := updates_of_redact hrun hfits
    exact ⟨_, .redacted hload hredact, hupdates⟩
  | delete hash params =>
    obtain ⟨cs, hrun, rfl⟩ := exec_map_ok h
    obtain ⟨tx, redacted, hload, hredact, hupdates⟩ :=
      updates_of_redact hrun (show Layout.Fits [] by decide)
    exact ⟨_, .deleted hload hredact, hupdates⟩

theorem exec_amend_error {f : Transaction → Outcome (α × Transaction)} :
    ((amend hash f).exec l).1 = .error e ↔ l.store.load hash >>= f = .error e := by
  simp only [amend, locked, inStore, exec_of, exec_on, Store.amend]
  cases l.store.load hash >>= f <;> constructor <;> intro h <;> cases h <;> rfl

theorem notFound_of_amend (h : l.store.get hash = .ok none)
    (f : Transaction → Outcome (α × Transaction)) :
    ((amend hash f).exec l).1 = .error (.notFound hash) := by
  rw [exec_amend_error, Store.load_of_absent h]
  rfl

/-- Attaching fails for what is stored or given, never for the link. -/
theorem not_transport_of_attach (fault : TransportFault) :
    ((attach hash primary cosigner).exec l).1 ≠ .error (.transport fault) := by
  rw [attach, ne_eq, exec_amend_error, Store.load]
  intro h
  cases hget : l.store.get hash with
  | error e =>
    rw [hget] at h
    cases h
  | ok found =>
    rw [hget] at h
    cases found with
    | none => cases h
    | some tx =>
      change (tx.attach primary cosigner >>= fun signed => .ok (signed, signed)) = _ at h
      rw [Transaction.attach] at h
      split at h <;> cases h

theorem notFound_of_submit (h : l.store.get hash = .ok none) :
    ((submit hash).exec l).1 = .error (.notFound hash) := by
  rw [exec_submit, Store.load_of_absent h]

theorem notFound_of_attachAndSubmit (h : l.store.get hash = .ok none) (primary : Signature)
    (cosigner : Option Signature) :
    ((attachAndSubmit hash primary cosigner).exec l).1 = .error (.notFound hash) := by
  have hattach : ((attach hash primary cosigner).exec l).1 = .error (.notFound hash) :=
    notFound_of_amend h _
  rw [attachAndSubmit, exec_bind_error (Prod.ext hattach rfl)]

theorem notFound_of_operation (hop : op.hash? = some hash) (h : l.store.get hash = .ok none) :
    (op.run.exec l).1 = .error (.notFound hash) := by
  cases op <;> cases hop
  case attach => exact error_of_map _ (notFound_of_amend h _)
  case sign => exact error_of_map _ (notFound_of_amend h _)
  case submit => exact error_of_map _ (notFound_of_submit h)
  case attachAndSubmit => exact error_of_map _ (notFound_of_attachAndSubmit h _ _)
  case redact => exact error_of_map _ (notFound_of_amend h _)
  case delete => exact error_of_map _ (notFound_of_amend h _)

theorem store_of_prepare_error {request : Preparation} {l' : Ledger}
    (h : request.run.exec l = (.error e, l')) :
    l'.store = l.store := by
  have heffect := effect_of_preparation request l
  have hnothing : deedOfPreparation (request.draft.exec l).1 (.error e) = .nothing := by
    cases (request.draft.exec l).1 <;> rfl
  rw [h, hnothing] at heffect
  exact heffect.eq_of_nothing

/-- An operation that fails leaves the store as it was, unless something of it remains. -/
theorem store_of_run_error {l' : Ledger} (h : op.run.exec l = (.error e, l'))
    (hremains : op.remains? e = none) :
    l'.store = l.store := by
  cases op with
  | prepare request => exact store_of_prepare_error (exec_map_error h)
  | attach hash primary cosigner => exact store_of_amend_error (exec_map_error h)
  | sign hash key cosigner => exact store_of_amend_error (exec_map_error h)
  | submit hash => rw [← keeps_submit hash l, exec_map_error h]
  | attachAndSubmit hash primary cosigner =>
    obtain ⟨e', hattach, _⟩ | ⟨record, l₁, _, hr, _⟩ :=
      attach_of_attachAndSubmit (exec_map_error h)
    · exact store_of_amend_error hattach
    · obtain ⟨fault, rfl⟩ := Link.transport_of_report hr.symm
      cases hremains
  | redact hash data params => exact store_of_amend_error (exec_map_error h)
  | delete hash params => exact store_of_amend_error (exec_map_error h)

theorem attach_of_remains {first : Operation} {l' : Ledger} (h : op.run.exec l = (.error e, l'))
    (hremains : op.remains? e = some first) :
    (∃ answer, (first.run.exec l).1 = .ok answer) ∧
      l'.store = (l.after (.operation first)).store := by
  cases op with
  | attachAndSubmit hash primary cosigner =>
    cases e with
    | transport fault =>
      cases hremains
      obtain ⟨e', hattach, hr⟩ | ⟨record, l₁, hattach, _, rfl⟩ :=
        attach_of_attachAndSubmit (exec_map_error h)
      · -- nothing was handed to the link yet
        cases hr
        exact absurd (by rw [hattach]) (not_transport_of_attach fault)
      · rw [after, Operation.run, exec_map, hattach]
        exact ⟨⟨_, rfl⟩, rfl⟩
    | _ => cases hremains
  | _ => cases hremains

/-- Whatever a ledger is, an operation on it has its whole effect or none. -/
theorem allOrNothing (hfits : op.Fits) (hfree : l.locks.IsFree) : op.AllOrNothing l where
  done answer h := leaves_of_run hfits (Prod.ext h rfl)
  failed e h hremains := store_of_run_error (Prod.ext h rfl) hremains
  unsent e first h hremains := attach_of_remains (Prod.ext h rfl) hremains
  submitted hash hop := by
    rw [hop, after, Operation.run, exec_map]
    exact keeps_submit hash l
  absent hash hop hget := notFound_of_operation hop hget
  unlocked := free_of_run op l hfree

end Ledger

theorem Redaction.Replaces.absent {r : Redaction} (h : r.Replaces s cs s')
    (hget : s.get hash = .ok none) :
    s'.get hash = .ok none := by
  obtain ⟨tx, redacted, hload, _, rfl⟩ := h
  rw [s.get_put_of_ne (Store.ne_of_absent hget hload), hget]

theorem Effect.absent {d : Deed} (h : Effect s d s') (hget : s.get hash = .ok none)
    (hstaged : hash ∉ d.staged?) :
    s'.get hash = .ok none := by
  cases h with
  | nothing => exact hget
  | signed hload _ => rw [s.get_put_of_ne (Store.ne_of_absent hget hload), hget]
  | redacted hreplaces => exact hreplaces.absent hget
  | staged _ _ _ =>
    rw [Store.get_put_of_ne, hget]
    rintro rfl
    exact hstaged rfl
  | announced _ _ _ _ hreplaces =>
    rw [Store.get_put_of_ne, hreplaces.absent hget]
    rintro rfl
    exact hstaged rfl

namespace Ledger

theorem absent_of_run (os : List Occurrence) (hget : l.store.get hash = .ok none)
    (hstaged : ∀ d ∈ l.deeds os, hash ∉ d.staged?) :
    (l.afterAll os).store.get hash = .ok none := by
  induction os generalizing l with
  | nil => exact hget
  | cons o os ih =>
    have hget₁ := (effect_of_deed l o).absent hget (hstaged _ List.mem_cons_self)
    exact ih hget₁ fun d hd => hstaged d (List.mem_cons_of_mem _ hd)

/-- After any run an operation has its whole effect or none, it leaves no hash checked out, and
one on a hash that was never stored fails for want of it. -/
theorem allOrNothing_of_run (l : Ledger) (hfree : l.locks.IsFree) (os : List Occurrence)
    (op : Operation) (hfits : op.Fits) :
    op.AllOrNothing (l.afterAll os) ∧
      ∀ hash, op.hash? = some hash → l.store.get hash = .ok none →
        (∀ d ∈ l.deeds os, hash ∉ d.staged?) →
        (op.run.exec (l.afterAll os)).1 = .error (.notFound hash) := by
  refine ⟨allOrNothing hfits (free_of_afterAll hfree os), fun hash hop hget hstaged => ?_⟩
  exact notFound_of_operation hop (absent_of_run os hget hstaged)

/-- Attaching to a prepared change of settings leaves its record with the signature, and
attaching to it before it is prepared fails. -/
theorem attached_after_prepared :
    ((Ledger.empty.afterAll [baseConfig]).after baseAttach).store.get baseConfigTx.contentHash =
        .ok (some { baseConfigTx with sig1 := ones }) ∧
      ((Operation.attach baseConfigTx.contentHash ones none).run.exec Ledger.empty).1 =
        .error (.notFound baseConfigTx.contentHash) := by
  constructor
  · obtain ⟨hall, _⟩ :=
      allOrNothing_of_run .empty rfl [baseConfig]
        (.attach baseConfigTx.contentHash ones none) trivial
    have hget := (staged_of_deed (deed_of_baseConfig Ledger.empty) baseConfigTx_fits).1
    obtain ⟨records, hleaves, hupdates⟩ :=
      hall.done (.record { baseConfigTx with sig1 := ones }) (by
      rw [Operation.run, exec_map, afterAll_cons, afterAll_nil, outcome_of_attach hget rfl]
      rfl)
    cases hleaves with
    | attached =>
      exact (hupdates baseConfigTx.contentHash).trans (by rw [List.lookup_cons_self])
  · obtain ⟨_, hnever⟩ :=
      allOrNothing_of_run .empty rfl [] (.attach baseConfigTx.contentHash ones none) trivial
    exact hnever baseConfigTx.contentHash rfl (Store.get_empty _) fun d hd => by cases hd

end Ledger

end RedactableLedger
