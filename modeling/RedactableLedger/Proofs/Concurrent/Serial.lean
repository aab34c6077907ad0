import Mathlib.Data.List.Perm.Basic
import RedactableLedger.Proofs.Concurrent.Progress
import RedactableLedger.Proofs.Store

namespace RedactableLedger

variable {call other : AmendCall} {s s' : Store} {i j : Nat}

namespace AmendCall

theorem conclude_fst (call : AmendCall) (record : Outcome Transaction) (s : Store) :
    (call.conclude record s).1 = (call.compute record).map (·.1) := by
  rw [conclude]
  cases call.compute record <;> rfl

theorem answer_congr (h : s.load call.hash = s'.load call.hash) :
    (call.serial.exec s).1 = (call.serial.exec s').1 := by
  rw [exec_serial, exec_serial, conclude_fst, conclude_fst, h]

def perform (s : Store) (call : AmendCall) : Store := (call.serial.exec s).2

theorem perform_eq_or (s : Store) (call : AmendCall) :
    perform s call = s ∨ ∃ tx, perform s call = s.put call.hash tx := by
  rw [perform, exec_serial, conclude]
  cases call.compute (s.load call.hash) with
  | error e => exact .inl rfl
  | ok made => exact .inr ⟨made.2, rfl⟩

theorem load_perform_of_ne {hash : TxHash} (h : call.hash ≠ hash) (s : Store) :
    (perform s call).load hash = s.load hash := by
  obtain he | ⟨tx, he⟩ := perform_eq_or s call
  · rw [he]
  · rw [he, Store.load_put_of_ne s h.symm]

theorem perform_comm (h : call.hash ≠ other.hash) (s : Store) :
    perform (perform s call) other = perform (perform s other) call := by
  have hother : (perform s call).load other.hash = s.load other.hash := load_perform_of_ne h s
  have hcall : (perform s other).load call.hash = s.load call.hash :=
    load_perform_of_ne h.symm s
  simp only [perform, exec_serial, conclude] at hother hcall ⊢
  rw [hother, hcall]
  cases call.compute (s.load call.hash) with
  | error e => rfl
  | ok made =>
    cases other.compute (s.load other.hash) with
    | error e => rfl
    | ok made' => exact Store.put_comm s h made.2 made'.2

theorem load_foldl_perform {hash : TxHash} (calls : List AmendCall)
    (h : ∀ call ∈ calls, call.hash ≠ hash) (s : Store) :
    (calls.foldl perform s).load hash = s.load hash := by
  induction calls generalizing s with
  | nil => rfl
  | cons call rest ih =>
    rw [List.foldl_cons, ih (fun c hc => h c (List.mem_cons_of_mem call hc)),
      load_perform_of_ne (h call List.mem_cons_self)]

theorem foldl_perform_erase {calls : List AmendCall} (hnodup : (calls.map (·.hash)).Nodup)
    (h : call ∈ calls) (s : Store) :
    (calls.erase call).foldl perform (perform s call) = calls.foldl perform s := by
  refine ((List.perm_cons_erase h).foldl_eq' (fun a ha b hb t => ?_) s).symm
  by_cases hab : a.hash = b.hash
  · rw [List.inj_on_of_nodup_map hnodup ha hb hab]
  · exact perform_comm hab t

end AmendCall

/-- Calls made one after the other on a store: what each returns, and the store in the end. -/
def Store.serially (s : Store) :
    List (Nat × AmendCall) → List (Nat × Outcome Amendment.Answer) × Store
  | [] => ([], s)
  | (i, call) :: rest =>
    let (answer, s) := call.serial.exec s
    let (answers, s) := s.serially rest
    ((i, answer) :: answers, s)

theorem Store.serially_append (s : Store) (calls : List (Nat × AmendCall)) (i : Nat)
    (call : AmendCall) :
    s.serially (calls ++ [(i, call)]) =
      ((s.serially calls).1 ++ [(i, (call.serial.exec (s.serially calls).2).1)],
        (call.serial.exec (s.serially calls).2).2) := by
  induction calls generalizing s with
  | nil => rfl
  | cons c rest ih =>
    simp only [List.cons_append, serially, ih]

def ofThread (i : Nat) (xs : List (Nat × α)) : List α := (xs.filter (·.1 = i)).map (·.2)

theorem ofThread_append (i : Nat) (xs ys : List (Nat × α)) :
    ofThread i (xs ++ ys) = ofThread i xs ++ ofThread i ys := by
  rw [ofThread, List.filter_append, List.map_append]
  rfl

theorem ofThread_self (i : Nat) (x : α) : ofThread i [(i, x)] = [x] := by
  simp [ofThread]

theorem ofThread_of_ne (h : j ≠ i) (x : α) : ofThread i [(j, x)] = [] := by
  simp [ofThread, h]

namespace AmendThread

variable {t u : AmendThread}

/-- The call that has acquired its mutex and whose record is still to be written. -/
def due? (t : AmendThread) : Option AmendCall :=
  match t.phase with
  | .holding _ | .loaded _ _ => t.calls.head?
  | _ => none

def remaining (t : AmendThread) : List AmendCall :=
  match t.phase with
  | .idle | .waiting _ => t.calls
  | _ => t.calls.tail

/-- What the call that has acquired its mutex will return, if the record of its hash stays. -/
def owed (t : AmendThread) (s : Store) : List (Outcome Amendment.Answer) :=
  match t.phase, t.calls with
  | .holding _, call :: _ | .loaded _ _, call :: _ => [(call.serial.exec s).1]
  | .written _ answer, _ :: _ | .released _ answer, _ :: _ | .dropped answer, _ :: _ => [answer]
  | _, _ => []

/-- Whether what the thread has read, if it has read, is the record that the store has. -/
def Reads (t : AmendThread) (s : Store) : Prop :=
  match t.phase, t.calls with
  | .loaded _ record, call :: _ => record = s.load call.hash
  | _, _ => True

theorem holds?_of_due? (h : t.due? = some call) :
    ∃ mutex, t.holds? = some (call.hash, mutex) := by
  obtain ⟨calls, phase, answers⟩ := t
  cases phase with
  | holding mutex =>
    refine ⟨mutex, ?_⟩
    rw [holds?, show calls.head? = some call from h]
    rfl
  | loaded mutex record =>
    refine ⟨mutex, ?_⟩
    rw [holds?, show calls.head? = some call from h]
    rfl
  | _ => cases h

theorem owed_congr (h : ∀ call, t.due? = some call → s.load call.hash = s'.load call.hash) :
    t.owed s = t.owed s' := by
  obtain ⟨calls, phase, answers⟩ := t
  cases calls with
  | nil => cases phase <;> rfl
  | cons call rest =>
    cases phase with
    | holding mutex => exact congrArg ([·]) (AmendCall.answer_congr (h call rfl))
    | loaded mutex record => exact congrArg ([·]) (AmendCall.answer_congr (h call rfl))
    | _ => rfl

theorem Reads.congr (h : ∀ call, t.due? = some call → s.load call.hash = s'.load call.hash)
    (hreads : t.Reads s) : t.Reads s' := by
  obtain ⟨calls, phase, answers⟩ := t
  cases calls with
  | nil => cases phase <;> exact trivial
  | cons call rest =>
    cases phase with
    | loaded mutex record => exact Eq.trans hreads (h call rfl)
    | _ => exact trivial

end AmendThread

namespace ConcurrentRun

variable {store : Store} {plan : List (List AmendCall)} {r r' : ConcurrentRun}
  {t t' : AmendThread} {rest : List AmendCall} {mutex : Nat} {record : Outcome Transaction}
  {returned : List (Outcome Amendment.Answer)}

def thread (r : ConcurrentRun) (i : Nat) : AmendThread := (r.threads[i]?).getD (.start [])

theorem thread_eq (hi : r.threads[i]? = some t) : r.thread i = t := by
  rw [thread, hi]
  rfl

theorem thread_setThread (hi : r.threads[i]? = some t) (s : Store) (locks : LockTable)
    (acquired : List (Nat × AmendCall)) (j : Nat) :
    (setThread ⟨s, locks, r.threads, acquired⟩ i t').thread j =
      if j = i then t' else r.thread j := by
  by_cases hj : j = i
  · subst hj
    rw [if_pos rfl]
    exact thread_eq ((getElem?_set_eq_some hi).2 (.inl ⟨rfl, rfl⟩))
  · rw [if_neg hj, thread, setThread, List.getElem?_set_ne (Ne.symm hj)]
    rfl

/-- What holds of a thread that has stepped and of all others holds of every thread after the
step. -/
theorem forall_setThread {P : Nat → AmendThread → Prop} (hi : r.threads[i]? = some t)
    (hself : P i t') (hother : ∀ j, j ≠ i → P j (r.thread j)) (s : Store) (locks : LockTable)
    (acquired : List (Nat × AmendCall)) (j : Nat) :
    P j ((setThread ⟨s, locks, r.threads, acquired⟩ i t').thread j) := by
  rw [thread_setThread hi]
  by_cases hj : j = i
  · rw [if_pos hj, hj]
    exact hself
  · rw [if_neg hj]
    exact hother j hj

theorem exists_setThread {P : AmendThread → Prop} (hi : r.threads[i]? = some t) (s : Store)
    (locks : LockTable) (acquired : List (Nat × AmendCall)) :
    (∃ j, P ((setThread ⟨s, locks, r.threads, acquired⟩ i t').thread j)) ↔
      P t' ∨ ∃ j, j ≠ i ∧ P (r.thread j) := by
  simp only [thread_setThread hi]
  constructor
  · rintro ⟨j, hj⟩
    by_cases hji : j = i
    · rw [if_pos hji] at hj
      exact .inl hj
    · rw [if_neg hji] at hj
      exact .inr ⟨j, hji, hj⟩
  · rintro (ht | ⟨j, hji, hj⟩)
    · exact ⟨i, by rwa [if_pos rfl]⟩
    · exact ⟨j, by rwa [if_neg hji]⟩

theorem exists_thread {P : AmendThread → Prop} (hi : r.threads[i]? = some t) :
    (∃ j, P (r.thread j)) ↔ P t ∨ ∃ j, j ≠ i ∧ P (r.thread j) := by
  constructor
  · rintro ⟨j, hj⟩
    by_cases hji : j = i
    · rw [hji, thread_eq hi] at hj
      exact .inl hj
    · exact .inr ⟨j, hji, hj⟩
  · rintro (ht | ⟨j, _, hj⟩)
    · exact ⟨i, by rwa [thread_eq hi]⟩
    · exact ⟨j, hj⟩

theorem threads_of_due? (h : (r.thread i).due? = some call) :
    r.threads[i]? = some (r.thread i) := by
  rw [thread] at h ⊢
  cases hi : r.threads[i]? with
  | none =>
    rw [hi] at h
    cases h
  | some t => rfl

theorem eq_of_due? (h : r.locks.Tracks r.threads) (hi : (r.thread i).due? = some call)
    (hj : (r.thread j).due? = some other) (hhash : call.hash = other.hash) : i = j := by
  obtain ⟨mutex, hcall⟩ := AmendThread.holds?_of_due? hi
  obtain ⟨mutex', hother⟩ := AmendThread.holds?_of_due? hj
  exact h.eq_of_hash_eq (threads_of_due? hi) (threads_of_due? hj) hcall (hhash ▸ hother)

/-- A thread that waits for a free mutex is about to call on a hash that no call is due on. -/
theorem hash_ne_of_free (h : r.locks.Tracks r.threads)
    (hi : r.threads[i]? = some ⟨call :: rest, .waiting mutex, returned⟩)
    (hfree : r.isHeld mutex = false) (hdue : (r.thread j).due? = some other) :
    other.hash ≠ call.hash := by
  intro hhash
  obtain ⟨mutex', hheld⟩ := AmendThread.holds?_of_due? hdue
  have hj := threads_of_due? hdue
  obtain ⟨e, he, hehash, rfl⟩ := h.entered i _ call.hash mutex hi rfl
  obtain ⟨e', he', hehash', rfl⟩ :=
    h.entered j _ other.hash mutex' hj (AmendThread.refers?_of_holds? hheld)
  cases h.eq_of_hash he' he (hehash'.trans (hhash.trans hehash.symm))
  exact not_holds_of_free hfree hj other.hash hheld

/-- The run has the effect of a serial one, but for the calls that have acquired their mutexes
and not written. -/
structure Linear (store : Store) (plan : List (List AmendCall)) (r : ConcurrentRun) : Prop where
  store_eq : ∃ pending : List AmendCall, (pending.map (·.hash)).Nodup ∧
    (∀ call, call ∈ pending ↔ ∃ i, (r.thread i).due? = some call) ∧
    pending.foldl AmendCall.perform r.store = (store.serially r.acquired).2
  reads : ∀ i, (r.thread i).Reads r.store
  answers_eq : ∀ i, ofThread i (store.serially r.acquired).1 =
    (r.thread i).answers ++ (r.thread i).owed r.store
  calls_eq : ∀ i, ofThread i r.acquired ++ (r.thread i).remaining = plan.getD i []

theorem thread_start (store : Store) (plan : List (List AmendCall)) (i : Nat) :
    (start store plan).thread i = .start (plan.getD i []) := by
  rw [thread, start, List.getElem?_map, List.getD_eq_getElem?_getD]
  cases plan[i]? <;> rfl

theorem linear_start (store : Store) (plan : List (List AmendCall)) :
    (start store plan).Linear store plan where
  store_eq := by
    refine ⟨[], List.nodup_nil, fun call => ⟨fun hmem => ?_, fun ⟨i, hdue⟩ => ?_⟩, rfl⟩
    · cases hmem
    · rw [thread_start] at hdue
      cases hdue
  reads i := by
    rw [thread_start]
    exact trivial
  answers_eq i := by
    rw [thread_start]
    cases plan.getD i [] <;> rfl
  calls_eq i := by
    rw [thread_start]
    rfl

/-- A step that neither acquires nor writes leaves the serial run as it is. -/
theorem Linear.quiet (h : r.Linear store plan) (hi : r.threads[i]? = some t) (locks : LockTable)
    (hdue : t'.due? = t.due?) (hremaining : t'.remaining = t.remaining)
    (hanswers : t'.answers ++ t'.owed r.store = t.answers ++ t.owed r.store)
    (hreads : t'.Reads r.store) :
    ({ r with locks := locks }.setThread i t').Linear store plan where
  store_eq := by
    obtain ⟨pending, hnodup, hmem, hstore⟩ := h.store_eq
    refine ⟨pending, hnodup, fun call => ?_, hstore⟩
    rw [hmem, exists_setThread (P := (·.due? = some call)) hi,
      exists_thread (P := (·.due? = some call)) hi, hdue]
  reads := forall_setThread (P := fun _ t => t.Reads r.store) hi hreads
    (fun j _ => h.reads j) _ _ _
  answers_eq := by
    refine forall_setThread (P := fun j t => ofThread j (store.serially r.acquired).1 =
      t.answers ++ t.owed r.store) hi ?_ (fun j _ => h.answers_eq j) _ _ _
    rw [h.answers_eq, thread_eq hi, hanswers]
  calls_eq := by
    refine forall_setThread (P := fun j t => ofThread j r.acquired ++ t.remaining =
      plan.getD j [])
      hi ?_ (fun j _ => h.calls_eq j) _ _ _
    rw [hremaining, ← thread_eq hi, h.calls_eq]

theorem Linear.acquire (h : r.Linear store plan) (htracks : r.locks.Tracks r.threads)
    (hi : r.threads[i]? = some ⟨call :: rest, .waiting mutex, returned⟩)
    (hfree : r.isHeld mutex = false) :
    ({ r with acquired := r.acquired ++ [(i, call)] }.setThread i
      ⟨call :: rest, .holding mutex, returned⟩).Linear store plan := by
  obtain ⟨pending, hnodup, hmem, hstore⟩ := h.store_eq
  have hfresh : ∀ c ∈ pending, c.hash ≠ call.hash := by
    intro c hc
    obtain ⟨j, hdue⟩ := (hmem c).1 hc
    exact hash_ne_of_free htracks hi hfree hdue
  -- the serial run is ahead by calls on other hashes, so this one finds the same record there
  have hload : (store.serially r.acquired).2.load call.hash = r.store.load call.hash := by
    rw [← hstore, AmendCall.load_foldl_perform pending hfresh]
  refine ⟨⟨pending ++ [call], ?nodup, fun c => ?due, ?store⟩, ?reads, ?answers, ?calls⟩
  case nodup =>
    rw [List.map_append, List.map_singleton, ← List.concat_eq_append]
    refine hnodup.concat fun hhash => ?_
    obtain ⟨c, hc, hhash⟩ := List.mem_map.1 hhash
    exact hfresh c hc hhash
  case due =>
    rw [exists_setThread (P := (·.due? = some c)) hi, List.mem_append, List.mem_singleton, hmem,
      exists_thread (P := (·.due? = some c)) hi]
    change (none = some c ∨ _) ∨ _ ↔ some call = some c ∨ _
    rw [Option.some_inj, eq_comm (a := call)]
    simp only [reduceCtorEq, false_or]
    exact or_comm
  case store =>
    change (pending ++ [call]).foldl AmendCall.perform r.store =
      (store.serially (r.acquired ++ [(i, call)])).2
    rw [List.foldl_append, hstore, Store.serially_append]
    rfl
  case reads =>
    refine forall_setThread (P := fun _ t => t.Reads r.store) hi ?_ (fun j _ => h.reads j) _ _ _
    exact trivial
  case answers =>
    refine forall_setThread (P := fun j t =>
      ofThread j (store.serially (r.acquired ++ [(i, call)])).1 = t.answers ++ t.owed r.store)
      hi ?_ (fun j hj => ?_) _ _ _
    · rw [Store.serially_append, ofThread_append, h.answers_eq i, thread_eq hi, ofThread_self,
        AmendCall.answer_congr hload]
      exact congrArg (· ++ _) (List.append_nil returned)
    · rw [Store.serially_append, ofThread_append, h.answers_eq j, ofThread_of_ne (Ne.symm hj),
        List.append_nil]
  case calls =>
    refine forall_setThread (P := fun j t =>
      ofThread j (r.acquired ++ [(i, call)]) ++ t.remaining = plan.getD j []) hi ?_
      (fun j hj => ?_) _ _ _
    · rw [ofThread_append, ofThread_self, ← h.calls_eq i, thread_eq hi, List.append_assoc]
      rfl
    · rw [ofThread_append, ofThread_of_ne (Ne.symm hj), List.append_nil, h.calls_eq]

theorem Linear.write (h : r.Linear store plan) (htracks : r.locks.Tracks r.threads)
    (hi : r.threads[i]? = some ⟨call :: rest, .loaded mutex record, returned⟩) :
    ({ r with store := (call.conclude record r.store).2 }.setThread i
      ⟨call :: rest, .written mutex (call.conclude record r.store).1, returned⟩).Linear store
        plan := by
  have hthread := thread_eq hi
  have hread := h.reads i
  rw [hthread] at hread
  -- what was read is still in the store, so to write it down is to make the call as a whole
  obtain rfl : record = r.store.load call.hash := hread
  rw [← AmendCall.exec_serial]
  have hdue : (r.thread i).due? = some call := by
    rw [hthread]
    rfl
  have hload : ∀ j c, j ≠ i → (r.thread j).due? = some c →
      r.store.load c.hash = (AmendCall.perform r.store call).load c.hash := by
    intro j c hj hc
    have hne : call.hash ≠ c.hash := fun hhash => hj (eq_of_due? htracks hdue hc hhash).symm
    exact (AmendCall.load_perform_of_ne hne r.store).symm
  obtain ⟨pending, hnodup, hmem, hstore⟩ := h.store_eq
  refine ⟨⟨pending.erase call, hnodup.sublist (List.erase_sublist.map _), fun c => ?due,
    ?store⟩, ?reads, ?answers, ?calls⟩
  case due =>
    rw [exists_setThread (P := (·.due? = some c)) hi, hnodup.of_map.mem_erase_iff, hmem,
      exists_thread (P := (·.due? = some c)) hi]
    constructor
    · rintro ⟨hne, hcall | hother⟩
      · exact absurd (Option.some.inj hcall).symm hne
      · exact .inr hother
    · rintro (hnone | ⟨j, hj, hc⟩)
      · cases hnone
      · refine ⟨?_, .inr ⟨j, hj, hc⟩⟩
        rintro rfl
        exact hj (eq_of_due? htracks hc hdue rfl)
  case store =>
    rw [← AmendCall.foldl_perform_erase hnodup ((hmem call).2 ⟨i, hdue⟩)] at hstore
    exact hstore
  case reads =>
    refine forall_setThread (P := fun _ t => t.Reads (AmendCall.perform r.store call)) hi ?_
      (fun j hj => (h.reads j).congr fun c => hload j c hj) _ _ _
    exact trivial
  case answers =>
    refine forall_setThread (P := fun j t => ofThread j (store.serially r.acquired).1 =
      t.answers ++ t.owed (AmendCall.perform r.store call)) hi ?_ (fun j hj => ?_) _ _ _
    · rw [h.answers_eq, hthread]
      rfl
    · rw [h.answers_eq, AmendThread.owed_congr fun c => hload j c hj]
  case calls =>
    refine forall_setThread (P := fun j t => ofThread j r.acquired ++ t.remaining =
      plan.getD j [])
      hi ?_ (fun j _ => h.calls_eq j) _ _ _
    rw [← h.calls_eq i, hthread]
    rfl

theorem Advances.linear (hstep : Advances r i r') (htracks : r.locks.Tracks r.threads)
    (h : r.Linear store plan) : r'.Linear store plan := by
  cases hstep with
  | stay => exact h
  | checkout hi => exact h.quiet hi _ rfl rfl rfl trivial
  | acquire hi hfree => exact h.acquire htracks hi hfree
  | load hi => exact h.quiet hi _ rfl rfl rfl rfl
  | write hi => exact h.write htracks hi
  | unlock hi => exact h.quiet hi _ rfl rfl rfl trivial
  | release hi => exact h.quiet hi _ rfl rfl rfl trivial
  | @sweep call rest answer returned hi =>
    refine h.quiet hi _ rfl rfl ?_ trivial
    cases rest <;> exact List.append_nil _

theorem linear_of_run (htracks : r.locks.Tracks r.threads) (h : r.Linear store plan)
    (interleaving : List Nat) : (r.run interleaving).Linear store plan := by
  induction interleaving generalizing r with
  | nil => exact h
  | cons i rest ih =>
    have hstep := advances_step r i
    exact ih (hstep.tracks htracks) (hstep.linear htracks h)

theorem settled_of_finished (h : t.isFinished = true) (s : Store) :
    t.due? = none ∧ t.remaining = [] ∧ t.owed s = [] := by
  obtain ⟨calls, phase, returned⟩ := t
  obtain rfl : calls = [] := List.isEmpty_iff.1 h
  cases phase <;> exact ⟨rfl, rfl, rfl⟩

theorem thread_isFinished (h : ∀ t ∈ r.threads, t.isFinished = true) (i : Nat) :
    (r.thread i).isFinished = true := by
  rw [thread]
  cases hi : r.threads[i]? with
  | none => rfl
  | some t => exact h t (List.mem_of_getElem? hi)

theorem answers_eq_thread (r : ConcurrentRun) (i : Nat) :
    r.answers i = (r.thread i).answers := by
  rw [answers, thread]
  cases r.threads[i]? <;> rfl

theorem Linear.final (h : r.Linear store plan)
    (hfinished : ∀ t ∈ r.threads, t.isFinished = true) :
    r.store = (store.serially r.acquired).2 ∧
      ∀ i, ofThread i r.acquired = plan.getD i [] ∧
        r.answers i = ofThread i (store.serially r.acquired).1 := by
  have hsettled := fun i => settled_of_finished (thread_isFinished hfinished i) r.store
  constructor
  · obtain ⟨pending, _, hmem, hstore⟩ := h.store_eq
    cases pending with
    | nil => exact hstore
    | cons call rest =>
      obtain ⟨i, hdue⟩ := (hmem call).1 List.mem_cons_self
      rw [(hsettled i).1] at hdue
      cases hdue
  · intro i
    obtain ⟨_, hremaining, howed⟩ := hsettled i
    constructor
    · rw [← h.calls_eq i, hremaining, List.append_nil]
    · rw [answers_eq_thread, h.answers_eq i, howed, List.append_nil]

/-- In any interleaving no two threads are inside the span of one hash, a thread refers to the
mutex that the table has for its hash, and the table has entries for hashes with a call in
progress alone. Every call can return; when they all have, the store and the answers are those
of the calls made one after the other, in the order in which they acquired their mutexes. -/
theorem serializable_of_run (store : Store) (plan : List (List AmendCall))
    (interleaving : List Nat) :
    let r := (start store plan).run interleaving
    (∀ (i j : Nat) (t u : AmendThread) (hash : TxHash) (mutex mutex' : Nat),
        r.threads[i]? = some t → r.threads[j]? = some u →
        t.holds? = some (hash, mutex) → u.holds? = some (hash, mutex') → i = j) ∧
      (∀ t ∈ r.threads, ∀ (hash : TxHash) (mutex : Nat), t.refers? = some (hash, mutex) →
        r.locks.mutex? hash = some mutex) ∧
      (∀ e ∈ r.locks.entries, ∃ t ∈ r.threads, t.amending? = some e.hash) ∧
      (∃ more, ∀ t ∈ (r.run more).threads, t.isFinished = true) ∧
      ((∀ t ∈ r.threads, t.isFinished = true) →
        r.store = (store.serially r.acquired).2 ∧
          ∀ i, ofThread i r.acquired = plan.getD i [] ∧
            r.answers i = ofThread i (store.serially r.acquired).1) := by
  intro r
  have htracks : r.locks.Tracks r.threads :=
    tracks_of_run (LockTable.tracks_empty plan) interleaving
  have hlinear : r.Linear store plan :=
    linear_of_run (LockTable.tracks_empty plan) (linear_start store plan) interleaving
  refine ⟨fun i j t u hash mutex mutex' hi hj ht hu => htracks.eq_of_hash_eq hi hj ht hu,
    fun t hmem hash mutex ht => ?_, fun e he => ?_,
    exists_finishing (orderly_of_run (orderly_start store plan) interleaving), hlinear.final⟩
  · obtain ⟨i, hi⟩ := List.mem_iff_getElem?.1 hmem
    obtain ⟨e, he, rfl, rfl⟩ := htracks.entered i t hash mutex hi ht
    exact htracks.mutex?_eq he
  · obtain ⟨i, t, hi, ht⟩ := htracks.amended e he
    exact ⟨t, List.mem_of_getElem? hi, ht⟩

def plainConfig : Transaction := .unsigned 0 1 [] none (.config 3 5 0)

def stagedConfig : Store := Store.empty.put (.zero 32) plainConfig

def repeated (n : UInt8) : Signature := ⟨⟨List.replicate 64 n, List.length_replicate⟩⟩

def attachRepeated (n : UInt8) : AmendCall := ⟨.zero 32, .attach (repeated n) none⟩

/-- Two threads that attach signatures under one hash take turns, and the second has to wait.
Its signature is the one that stays. -/
theorem attachments_serialized :
    let r := (start stagedConfig [[attachRepeated 1], [attachRepeated 2]]).run (takingTurns 2)
    (∀ t ∈ r.threads, t.isFinished = true) ∧
      r.acquired = [(0, attachRepeated 1), (1, attachRepeated 2)] ∧
      r.store = (stagedConfig.serially [(0, attachRepeated 1), (1, attachRepeated 2)]).2 ∧
      r.store.get (.zero 32) = .ok (some { plainConfig with sig1 := repeated 2 }) := by
  intro r
  have hfinished : ∀ t ∈ r.threads, t.isFinished = true := by decide +kernel
  have hacquired : r.acquired = [(0, attachRepeated 1), (1, attachRepeated 2)] := by
    decide +kernel
  obtain ⟨_, _, _, _, hfinal⟩ := serializable_of_run stagedConfig
    [[attachRepeated 1], [attachRepeated 2]] (takingTurns 2)
  have hstore : r.store =
      (stagedConfig.serially [(0, attachRepeated 1), (1, attachRepeated 2)]).2 := by
    rw [← hacquired]
    exact (hfinal hfinished).1
  refine ⟨hfinished, hacquired, hstore, ?_⟩
  rw [hstore]
  decide +kernel

end ConcurrentRun

end RedactableLedger
