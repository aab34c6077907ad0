import RedactableLedger.Proofs.Concurrent.Locks
import RedactableLedger.Proofs.Outcome

namespace RedactableLedger

namespace AmendCall

/-- What the call returns and the store after it, once it has read a record. -/
def conclude (call : AmendCall) (record : Outcome Transaction) (s : Store) :
    Outcome Amendment.Answer × Store :=
  match call.compute record with
  | .error e => (.error e, s)
  | .ok (answer, tx) => (.ok answer, s.put call.hash tx)

theorem exec_serial (call : AmendCall) (s : Store) :
    call.serial.exec s = call.conclude (s.load call.hash) s := by
  rw [conclude, compute, serial, Store.amend, Action.exec_of]
  split <;> rename_i h <;> rw [h]

/-- A call made alone is what the ledger does with the same computation. -/
theorem serial_eq_amend {call : AmendCall} {f : Transaction → Outcome (α × Transaction)}
    {g : α → Amendment.Answer}
    (h : ∀ tx, call.amendment.apply call.hash tx = (f tx).map (Prod.map g id)) (l : Ledger) :
    call.serial.exec l.store =
      (((Ledger.amend call.hash f).exec l).1.map g,
        ((Ledger.amend call.hash f).exec l).2.store) := by
  simp only [exec_serial, conclude, compute, Ledger.amend, Ledger.locked, Ledger.inStore,
    Action.exec_of, Action.exec_on, Store.amend]
  cases l.store.load call.hash with
  | error e => rfl
  | ok tx =>
    have hcall : Except.ok tx >>= (call.amendment.apply call.hash ·) =
        (f tx).map (Prod.map g id) := h tx
    have hledger : Except.ok tx >>= f = f tx := rfl
    rw [hcall, hledger]
    cases f tx <;> rfl

theorem serial_attach (hash : TxHash) (primary : Signature) (cosigner : Option Signature)
    (l : Ledger) :
    (serial ⟨hash, .attach primary cosigner⟩).exec l.store =
      (((Ledger.attach hash primary cosigner).exec l).1.map .record,
        ((Ledger.attach hash primary cosigner).exec l).2.store) :=
  serial_eq_amend (fun tx => by
    rw [Amendment.apply]
    cases tx.attach primary cosigner <;> rfl) l

theorem serial_sign (hash : TxHash) (key : PrivateKey) (cosigner : Option PrivateKey)
    (l : Ledger) :
    (serial ⟨hash, .sign key cosigner⟩).exec l.store =
      (((Ledger.sign hash key cosigner).exec l).1.map .record,
        ((Ledger.sign hash key cosigner).exec l).2.store) :=
  serial_eq_amend (fun tx => by
    rw [Amendment.apply]
    cases tx.sign hash key cosigner <;> rfl) l

theorem serial_redact (hash : TxHash) (data : Bytes) (params : ChameleonParams) (l : Ledger) :
    (serial ⟨hash, .redact data params⟩).exec l.store =
      (((Ledger.redact hash data params).exec l).1.map .checkString,
        ((Ledger.redact hash data params).exec l).2.store) :=
  serial_eq_amend (fun tx => by
    rw [Amendment.apply]
    cases tx.redact hash data params <;> rfl) l

end AmendCall

namespace ConcurrentRun

/-- What a step of a thread can do. -/
inductive Advances (r : ConcurrentRun) (i : Nat) : ConcurrentRun → Prop
  | stay : Advances r i r
  | checkout (hi : r.threads[i]? = some ⟨call :: rest, .idle, returned⟩) :
    Advances r i ({ r with locks := (r.locks.checkout call.hash).2 }.setThread i
      ⟨call :: rest, .waiting (r.locks.checkout call.hash).1, returned⟩)
  | acquire (hi : r.threads[i]? = some ⟨call :: rest, .waiting mutex, returned⟩)
    (hfree : r.isHeld mutex = false) :
    Advances r i ({ r with acquired := r.acquired ++ [(i, call)] }.setThread i
      ⟨call :: rest, .holding mutex, returned⟩)
  | load (hi : r.threads[i]? = some ⟨call :: rest, .holding mutex, returned⟩) :
    Advances r i (r.setThread i ⟨call :: rest, .loaded mutex (r.store.load call.hash),
      returned⟩)
  /-- The thread writes what it made of the record that it read, if it made something. -/
  | write (hi : r.threads[i]? = some ⟨call :: rest, .loaded mutex record, returned⟩) :
    Advances r i ({ r with store := (call.conclude record r.store).2 }.setThread i
      ⟨call :: rest, .written mutex (call.conclude record r.store).1, returned⟩)
  | unlock (hi : r.threads[i]? = some ⟨call :: rest, .written mutex answer, returned⟩) :
    Advances r i (r.setThread i ⟨call :: rest, .released mutex answer, returned⟩)
  | release (hi : r.threads[i]? = some ⟨call :: rest, .released mutex answer, returned⟩) :
    Advances r i ({ r with locks := r.locks.release mutex }.setThread i
      ⟨call :: rest, .dropped answer, returned⟩)
  /-- The thread sweeps the entry of its hash and returns from the call. -/
  | sweep (hi : r.threads[i]? = some ⟨call :: rest, .dropped answer, returned⟩) :
    Advances r i ({ r with locks := r.locks.sweep call.hash }.setThread i
      ⟨rest, .idle, returned ++ [answer]⟩)

variable {r : ConcurrentRun}

theorem advances_step (r : ConcurrentRun) (i : Nat) : Advances r i (r.step i) := by
  rw [step]
  cases hi : r.threads[i]? with
  | none => exact .stay
  | some t =>
    obtain ⟨calls, phase, returned⟩ := t
    cases calls with
    | nil => exact .stay
    | cons call rest =>
      cases phase with
      | idle => exact .checkout hi
      | waiting mutex =>
        by_cases hheld : r.isHeld mutex = true
        · simp only [stepThread, if_pos hheld]
          exact .stay
        · simp only [stepThread, if_neg hheld]
          exact .acquire hi (eq_false_of_ne_true hheld)
      | holding mutex => exact .load hi
      | loaded mutex record =>
        have hwrite := Advances.write (r := r) hi
        cases hc : call.compute record with
        | error e =>
          rw [AmendCall.conclude, hc] at hwrite
          simp only [stepThread, hc]
          exact hwrite
        | ok made =>
          rw [AmendCall.conclude, hc] at hwrite
          simp only [stepThread, hc]
          exact hwrite
      | written mutex answer => exact .unlock hi
      | released mutex answer => exact .release hi
      | dropped answer => exact .sweep hi

theorem not_holds_of_free {mutex j : Nat} {u : AmendThread} (hfree : r.isHeld mutex = false)
    (hj : r.threads[j]? = some u) (hash : TxHash) : u.holds? ≠ some (hash, mutex) := by
  intro hu
  obtain ⟨call, _, hu⟩ := Option.bind_eq_some_iff.1 hu
  obtain ⟨_, hheld, he⟩ := Option.map_eq_some_iff.1 hu
  cases he
  have hany : r.isHeld mutex = true :=
    List.any_eq_true.2 ⟨u, List.mem_of_getElem? hj, decide_eq_true hheld⟩
  rw [hfree] at hany
  cases hany

theorem Advances.tracks {r' : ConcurrentRun} (hstep : Advances r i r')
    (h : r.locks.Tracks r.threads) : r'.locks.Tracks r'.threads := by
  cases hstep with
  | stay => exact h
  | checkout hi => exact h.checkout hi
  | acquire hi hfree =>
    refine h.step hi rfl rfl fun hash mutex ht => .inr fun j u other hj => ?_
    cases ht
    exact not_holds_of_free hfree hj other
  | load hi => exact h.step hi rfl rfl fun hash mutex ht => .inl ht
  | write hi => exact h.step hi rfl rfl fun hash mutex ht => .inl ht
  | unlock hi => exact h.step hi rfl rfl fun hash mutex ht => by cases ht
  | release hi => exact h.release hi
  | sweep hi => exact h.sweep hi

theorem tracks_of_run (h : r.locks.Tracks r.threads) (interleaving : List Nat) :
    (r.run interleaving).locks.Tracks (r.run interleaving).threads := by
  induction interleaving generalizing r with
  | nil => exact h
  | cons i rest ih => exact ih ((advances_step r i).tracks h)

end ConcurrentRun

end RedactableLedger
