import Mathlib.Data.List.Nodup
import RedactableLedger.Lifecycle.Concurrent

namespace RedactableLedger

section

variable {α : Type} {l : List α} {i j : Nat} {a b c : α}

theorem getElem?_set_eq_some (h : l[i]? = some a) :
    (l.set i b)[j]? = some c ↔ j = i ∧ c = b ∨ j ≠ i ∧ l[j]? = some c := by
  have hi : i < l.length := (List.getElem?_eq_some_iff.1 h).1
  by_cases hj : j = i
  · subst hj
    simp [List.getElem?_set_self hi, eq_comm]
  · simp [List.getElem?_set_ne (Ne.symm hj), hj]

theorem countP_set_add (p : α → Bool) (h : l[i]? = some a) :
    (l.set i b).countP p + (if p a then 1 else 0) = l.countP p + (if p b then 1 else 0) := by
  obtain ⟨hi, rfl⟩ := List.getElem?_eq_some_iff.1 h
  have hle := List.boole_getElem_le_countP (p := p) (l := l) (i := i) hi
  rw [List.countP_set hi]
  omega

end

variable {threads : List AmendThread} {t t' u : AmendThread} {hash other : TxHash}
  {mutex mutex' i j : Nat}

namespace AmendThread

def amending? (t : AmendThread) : Option TxHash :=
  match t.phase, t.calls with
  | .idle, _ => none
  | _, calls => calls.head?.map (·.hash)

/-- The hash of the call in progress and the mutex that it refers to. -/
def refers? (t : AmendThread) : Option (TxHash × Nat) :=
  t.calls.head?.bind fun call => t.phase.referred?.map (call.hash, ·)

/-- The hash whose span the thread is inside, and the mutex that it holds. -/
def holds? (t : AmendThread) : Option (TxHash × Nat) :=
  t.calls.head?.bind fun call => t.phase.held?.map (call.hash, ·)

@[simp] theorem refers?_idle (calls : List AmendCall)
    (answers : List (Outcome Amendment.Answer)) :
    refers? ⟨calls, .idle, answers⟩ = none := by
  cases calls <;> rfl

@[simp] theorem refers?_dropped (calls : List AmendCall) (answer : Outcome Amendment.Answer)
    (answers : List (Outcome Amendment.Answer)) :
    refers? ⟨calls, .dropped answer, answers⟩ = none := by
  cases calls <;> rfl

@[simp] theorem refers?_waiting (call : AmendCall) (rest : List AmendCall) (mutex : Nat)
    (answers : List (Outcome Amendment.Answer)) :
    refers? ⟨call :: rest, .waiting mutex, answers⟩ = some (call.hash, mutex) := rfl

@[simp] theorem refers?_released (call : AmendCall) (rest : List AmendCall) (mutex : Nat)
    (answer : Outcome Amendment.Answer) (answers : List (Outcome Amendment.Answer)) :
    refers? ⟨call :: rest, .released mutex answer, answers⟩ = some (call.hash, mutex) := rfl

theorem referred?_of_held? {phase : SpanPhase} (h : phase.held? = some mutex) :
    phase.referred? = some mutex := by
  cases phase <;> first | exact h | cases h

theorem refers?_of_holds? {p : TxHash × Nat} (h : t.holds? = some p) : t.refers? = some p := by
  obtain ⟨call, hcall, h⟩ := Option.bind_eq_some_iff.1 h
  obtain ⟨mutex, hmutex, rfl⟩ := Option.map_eq_some_iff.1 h
  exact Option.bind_eq_some_iff.2
    ⟨call, hcall, Option.map_eq_some_iff.2 ⟨mutex, referred?_of_held? hmutex, rfl⟩⟩

theorem amending?_of_refers? (h : t.refers? = some (hash, mutex)) :
    t.amending? = some hash := by
  obtain ⟨calls, phase, answers⟩ := t
  obtain ⟨call, hcall, h⟩ := Option.bind_eq_some_iff.1 h
  obtain ⟨_, hmutex, he⟩ := Option.map_eq_some_iff.1 h
  cases he
  cases phase with
  | idle => cases hmutex
  | _ => exact Option.map_eq_some_iff.2 ⟨call, hcall, rfl⟩

end AmendThread

def countReferences (threads : List AmendThread) (hash : TxHash) (mutex : Nat) : Nat :=
  threads.countP (·.refers? = some (hash, mutex))

theorem countReferences_set (hi : threads[i]? = some t) (t' : AmendThread) (hash : TxHash)
    (mutex : Nat) :
    countReferences (threads.set i t') hash mutex +
        (if t.refers? = some (hash, mutex) then 1 else 0) =
      countReferences threads hash mutex +
        (if t'.refers? = some (hash, mutex) then 1 else 0) := by
  have hset := countP_set_add (b := t') (fun u => decide (u.refers? = some (hash, mutex))) hi
  simp only [decide_eq_true_eq] at hset
  exact hset

theorem countReferences_ne_zero :
    countReferences threads hash mutex ≠ 0 ↔ ∃ (j : Nat) (u : AmendThread),
      threads[j]? = some u ∧ u.refers? = some (hash, mutex) := by
  rw [countReferences, ← Nat.pos_iff_ne_zero, List.countP_pos_iff]
  constructor
  · rintro ⟨u, hu, hrefers⟩
    obtain ⟨j, hj⟩ := List.mem_iff_getElem?.1 hu
    exact ⟨j, u, hj, of_decide_eq_true hrefers⟩
  · rintro ⟨j, u, hj, hrefers⟩
    exact ⟨u, List.mem_of_getElem? hj, decide_eq_true hrefers⟩

def Exclusive (threads : List AmendThread) : Prop :=
  ∀ (i j : Nat) (t u : AmendThread) (hash other : TxHash) (mutex : Nat),
    threads[i]? = some t → threads[j]? = some u →
    t.holds? = some (hash, mutex) → u.holds? = some (other, mutex) → i = j

theorem Exclusive.set (h : Exclusive threads)
    (hi : threads[i]? = some t)
    (htakes : ∀ hash mutex, t'.holds? = some (hash, mutex) → t.holds? = some (hash, mutex) ∨
      ∀ (j : Nat) (u : AmendThread) (other : TxHash), threads[j]? = some u →
        u.holds? ≠ some (other, mutex)) :
    Exclusive (threads.set i t') := by
  intro j k u v hash other mutex hj hk hu hv
  rw [getElem?_set_eq_some hi] at hj hk
  obtain ⟨rfl, rfl⟩ | ⟨hji, hj⟩ := hj
  · obtain ⟨rfl, rfl⟩ | ⟨hki, hk⟩ := hk
    · rfl
    · obtain ht | hfree := htakes hash mutex hu
      · exact h _ _ _ _ _ _ _ hi hk ht hv
      · exact absurd hv (hfree k v other hk)
  · obtain ⟨rfl, rfl⟩ | ⟨hki, hk⟩ := hk
    · obtain ht | hfree := htakes other mutex hv
      · exact h _ _ _ _ _ _ _ hj hi hu ht
      · exact absurd hu (hfree j u hash hj)
    · exact h _ _ _ _ _ _ _ hj hk hu hv

namespace LockTable

/-- The table has the mutexes that threads refer to, with the number of references, and has
entries for hashes with a call in progress alone. -/
structure Tracks (locks : LockTable) (threads : List AmendThread) : Prop where
  hashes_nodup : (locks.entries.map (·.hash)).Nodup
  mutexes_nodup : (locks.entries.map (·.mutex)).Nodup
  fresh : ∀ e ∈ locks.entries, e.mutex < locks.nextMutex
  entered : ∀ (i : Nat) (t : AmendThread) (hash : TxHash) (mutex : Nat), threads[i]? = some t →
    t.refers? = some (hash, mutex) → ∃ e ∈ locks.entries, e.hash = hash ∧ e.mutex = mutex
  counted : ∀ e ∈ locks.entries, e.references = countReferences threads e.hash e.mutex
  amended : ∀ e ∈ locks.entries, ∃ (i : Nat) (t : AmendThread), threads[i]? = some t ∧
    t.amending? = some e.hash
  exclusive : Exclusive threads

variable {locks : LockTable}

theorem tracks_empty (calls : List (List AmendCall)) : empty.Tracks (calls.map .start) where
  hashes_nodup := List.nodup_nil
  mutexes_nodup := List.nodup_nil
  fresh _ he := by cases he
  entered i t hash mutex hi ht := by
    rw [List.getElem?_map] at hi
    obtain ⟨cs, _, rfl⟩ := Option.map_eq_some_iff.1 hi
    cases cs <;> cases ht
  counted _ he := by cases he
  amended _ he := by cases he
  exclusive i j t u hash other mutex hi hj ht hu := by
    rw [List.getElem?_map] at hi
    obtain ⟨cs, _, rfl⟩ := Option.map_eq_some_iff.1 hi
    cases cs <;> cases ht

theorem Tracks.eq_of_hash (h : locks.Tracks threads) {e e' : LockEntry} (he : e ∈ locks.entries)
    (he' : e' ∈ locks.entries) (hhash : e.hash = e'.hash) : e = e' :=
  List.inj_on_of_nodup_map h.hashes_nodup he he' hhash

theorem Tracks.eq_of_mutex (h : locks.Tracks threads) {e e' : LockEntry}
    (he : e ∈ locks.entries) (he' : e' ∈ locks.entries) (hmutex : e.mutex = e'.mutex) :
    e = e' :=
  List.inj_on_of_nodup_map h.mutexes_nodup he he' hmutex

theorem Tracks.mutex?_eq (h : locks.Tracks threads) {e : LockEntry} (he : e ∈ locks.entries) :
    locks.mutex? e.hash = some e.mutex := by
  rw [mutex?, find?]
  cases hf : locks.entries.find? (·.hash = e.hash) with
  | none => exact absurd (List.find?_eq_none.1 hf e he) (by simp)
  | some e' =>
    have hhash : e'.hash = e.hash := by simpa using List.find?_some hf
    rw [h.eq_of_hash (List.mem_of_find?_eq_some hf) he hhash]
    rfl

theorem Tracks.eq_of_hash_eq (h : locks.Tracks threads) (hi : threads[i]? = some t)
    (hj : threads[j]? = some u) (ht : t.holds? = some (hash, mutex))
    (hu : u.holds? = some (hash, mutex')) : i = j := by
  obtain ⟨e, he, rfl, rfl⟩ := h.entered i t hash mutex hi (AmendThread.refers?_of_holds? ht)
  obtain ⟨e', he', hhash, rfl⟩ :=
    h.entered j u e.hash mutex' hj (AmendThread.refers?_of_holds? hu)
  cases h.eq_of_hash he' he hhash
  exact h.exclusive i j t u _ _ _ hi hj ht hu

/-- A thread may change its references if those in the table change with them. -/
theorem Tracks.recount (h : locks.Tracks threads) (hi : threads[i]? = some t) (t' : AmendThread)
    (g : LockEntry → Nat)
    (hcounts : ∀ e ∈ locks.entries,
      g e + (if t.refers? = some (e.hash, e.mutex) then 1 else 0) =
        e.references + (if t'.refers? = some (e.hash, e.mutex) then 1 else 0))
    (henters : ∀ hash mutex, t'.refers? = some (hash, mutex) →
      ∃ e ∈ locks.entries, e.hash = hash ∧ e.mutex = mutex)
    (hamends : ∀ hash, t.amending? = some hash → t'.amending? = some hash)
    (htakes : ∀ hash mutex, t'.holds? = some (hash, mutex) → t.holds? = some (hash, mutex) ∨
      ∀ (j : Nat) (u : AmendThread) (other : TxHash), threads[j]? = some u →
        u.holds? ≠ some (other, mutex)) :
    Tracks { locks with entries := locks.entries.map fun e => { e with references := g e } }
      (threads.set i t') where
  hashes_nodup := by
    rw [List.map_map]
    exact h.hashes_nodup
  mutexes_nodup := by
    rw [List.map_map]
    exact h.mutexes_nodup
  fresh _ hmem := by
    obtain ⟨e, he, rfl⟩ := List.mem_map.1 hmem
    exact h.fresh e he
  entered j u hash mutex hj hu := by
    obtain ⟨e, he, hhash, hmutex⟩ : ∃ e ∈ locks.entries, e.hash = hash ∧ e.mutex = mutex := by
      obtain ⟨rfl, rfl⟩ | ⟨_, hj⟩ := (getElem?_set_eq_some hi).1 hj
      · exact henters hash mutex hu
      · exact h.entered j u hash mutex hj hu
    exact ⟨_, List.mem_map_of_mem he, hhash, hmutex⟩
  counted _ hmem := by
    obtain ⟨e, he, rfl⟩ := List.mem_map.1 hmem
    have hset := countReferences_set hi t' e.hash e.mutex
    have hcount := h.counted e he
    have hchange := hcounts e he
    dsimp only
    omega
  amended _ hmem := by
    obtain ⟨e, he, rfl⟩ := List.mem_map.1 hmem
    obtain ⟨j, u, hj, hu⟩ := h.amended e he
    by_cases hji : j = i
    · -- the thread that takes the step still amends what it amended before
      subst hji
      cases hi.symm.trans hj
      exact ⟨j, t', (getElem?_set_eq_some hi).2 (.inl ⟨rfl, rfl⟩), hamends _ hu⟩
    · exact ⟨j, u, (getElem?_set_eq_some hi).2 (.inr ⟨hji, hj⟩), hu⟩
  exclusive := h.exclusive.set hi htakes

/-- Steps that neither begin nor end a reference leave the table as it is. -/
theorem Tracks.step (h : locks.Tracks threads) (hi : threads[i]? = some t)
    (hrefers : t'.refers? = t.refers?) (hamends : t'.amending? = t.amending?)
    (htakes : ∀ hash mutex, t'.holds? = some (hash, mutex) → t.holds? = some (hash, mutex) ∨
      ∀ (j : Nat) (u : AmendThread) (other : TxHash), threads[j]? = some u →
        u.holds? ≠ some (other, mutex)) :
    locks.Tracks (threads.set i t') := by
  have hset := h.recount hi t' (·.references) (fun e _ => by rw [hrefers])
    (fun hash mutex ht => h.entered i t hash mutex hi (hrefers ▸ ht))
    (fun hash ht => hamends.trans ht) htakes
  rwa [List.map_id'] at hset

variable {call : AmendCall} {rest : List AmendCall} {answers : List (Outcome Amendment.Answer)}
  {answer : Outcome Amendment.Answer}

theorem Tracks.refers?_ne_next (h : locks.Tracks threads) (hi : threads[i]? = some t)
    (hash : TxHash) : t.refers? ≠ some (hash, locks.nextMutex) := by
  intro ht
  obtain ⟨e, he, _, hmutex⟩ := h.entered i t hash locks.nextMutex hi ht
  exact absurd (h.fresh e he) (by omega)

theorem Tracks.references_ne_zero (h : locks.Tracks threads) {e : LockEntry}
    (he : e ∈ locks.entries) :
    e.references ≠ 0 ↔ ∃ (j : Nat) (u : AmendThread), threads[j]? = some u ∧
      u.refers? = some (e.hash, e.mutex) := by
  rw [h.counted e he, countReferences_ne_zero]

theorem Tracks.make (h : locks.Tracks threads)
    (hi : threads[i]? = some ⟨call :: rest, .idle, answers⟩)
    (habsent : ∀ e ∈ locks.entries, e.hash ≠ call.hash) :
    Tracks ⟨⟨call.hash, locks.nextMutex, 1⟩ :: locks.entries, locks.nextMutex + 1⟩
      (threads.set i ⟨call :: rest, .waiting locks.nextMutex, answers⟩) where
  hashes_nodup := by
    refine List.nodup_cons.2 ⟨fun hmem => ?_, h.hashes_nodup⟩
    obtain ⟨e, he, hhash⟩ := List.mem_map.1 hmem
    exact habsent e he hhash
  mutexes_nodup := by
    refine List.nodup_cons.2 ⟨fun hmem => ?_, h.mutexes_nodup⟩
    obtain ⟨e, he, hmutex⟩ := List.mem_map.1 hmem
    exact absurd hmutex (Nat.ne_of_lt (h.fresh e he))
  fresh e hmem := by
    obtain rfl | he := List.mem_cons.1 hmem
    · exact Nat.lt_succ_self _
    · exact Nat.lt_succ_of_lt (h.fresh e he)
  entered j u hash mutex hj hu := by
    obtain ⟨rfl, rfl⟩ | ⟨_, hj⟩ := (getElem?_set_eq_some hi).1 hj
    · cases hu
      exact ⟨_, List.mem_cons_self, rfl, rfl⟩
    · obtain ⟨e, he, hentry⟩ := h.entered j u hash mutex hj hu
      exact ⟨e, List.mem_cons_of_mem _ he, hentry⟩
  counted e hmem := by
    have hset := countReferences_set hi ⟨call :: rest, .waiting locks.nextMutex, answers⟩
      e.hash e.mutex
    rw [AmendThread.refers?_idle, AmendThread.refers?_waiting, if_neg (by simp)] at hset
    obtain rfl | he := List.mem_cons.1 hmem
    · -- no thread refers to a mutex that is yet to be made, so the caller is the only one
      have hnone : countReferences threads call.hash locks.nextMutex = 0 := by
        by_contra hsome
        obtain ⟨j, u, hj, hu⟩ := countReferences_ne_zero.1 hsome
        exact h.refers?_ne_next hj call.hash hu
      rw [if_pos rfl] at hset
      dsimp only at hset ⊢
      omega
    · rw [if_neg (by simp [(habsent e he).symm])] at hset
      rw [h.counted e he]
      exact hset.symm
  amended e hmem := by
    obtain rfl | he := List.mem_cons.1 hmem
    · exact ⟨i, _, (getElem?_set_eq_some hi).2 (.inl ⟨rfl, rfl⟩), rfl⟩
    · obtain ⟨j, u, hj, hu⟩ := h.amended e he
      refine ⟨j, u, (getElem?_set_eq_some hi).2 (.inr ⟨?_, hj⟩), hu⟩
      rintro rfl
      cases hi.symm.trans hj
      cases hu
  exclusive := h.exclusive.set hi fun hash mutex ht => by cases ht

theorem Tracks.checkout (h : locks.Tracks threads)
    (hi : threads[i]? = some ⟨call :: rest, .idle, answers⟩) :
    (locks.checkout call.hash).2.Tracks
      (threads.set i ⟨call :: rest, .waiting (locks.checkout call.hash).1, answers⟩) := by
  rw [LockTable.checkout]
  cases hf : locks.find? call.hash with
  | none =>
    exact h.make hi fun e he hhash => List.find?_eq_none.1 hf e he (by simpa using hhash)
  | some e =>
    have he : e ∈ locks.entries := List.mem_of_find?_eq_some hf
    have hhash : e.hash = call.hash := by simpa using List.find?_some hf
    have hset := h.recount hi ⟨call :: rest, .waiting e.mutex, answers⟩
      (fun e' => if e'.hash = call.hash then e'.references + 1 else e'.references) ?_ ?_ ?_ ?_
    · have hentries :
          (fun e' : LockEntry => { e' with
            references := if e'.hash = call.hash then e'.references + 1 else e'.references }) =
          fun e' => if e'.hash = call.hash then { e' with references := e'.references + 1 }
            else e' := by
        funext e'
        split <;> rfl
      rwa [hentries] at hset
    · intro e' he'
      by_cases hsame : e'.hash = call.hash
      · cases h.eq_of_hash he' he (hsame.trans hhash.symm)
        simp [hhash]
      · simp [hsame, Ne.symm hsame]
    · intro hash mutex ht
      cases ht
      exact ⟨e, he, hhash, rfl⟩
    · intro hash ht
      cases ht
    · intro hash mutex ht
      cases ht

theorem Tracks.release (h : locks.Tracks threads)
    (hi : threads[i]? = some ⟨call :: rest, .released mutex answer, answers⟩) :
    (locks.release mutex).Tracks (threads.set i ⟨call :: rest, .dropped answer, answers⟩) := by
  obtain ⟨e₀, he₀, hhash, rfl⟩ := h.entered i _ call.hash mutex hi rfl
  have hset := h.recount hi ⟨call :: rest, .dropped answer, answers⟩
    (fun e => if e.mutex = e₀.mutex then e.references - 1 else e.references) ?_ ?_ ?_ ?_
  · have hentries :
        (fun e : LockEntry => { e with
          references := if e.mutex = e₀.mutex then e.references - 1 else e.references }) =
        fun e => if e.mutex = e₀.mutex then { e with references := e.references - 1 }
          else e := by
      funext e
      split <;> rfl
    rwa [hentries] at hset
  · intro e he
    by_cases hsame : e.mutex = e₀.mutex
    · cases h.eq_of_mutex he he₀ hsame
      have hpos : e₀.references ≠ 0 :=
        (h.references_ne_zero he₀).2 ⟨i, _, hi, by rw [hhash, AmendThread.refers?_released]⟩
      rw [AmendThread.refers?_released, AmendThread.refers?_dropped, if_pos rfl,
        if_pos (by rw [hhash]), if_neg (by simp)]
      omega
    · simp [hsame, Ne.symm hsame]
  · intro hash mutex ht
    cases ht
  · intro hash ht
    exact ht
  · intro hash mutex ht
    cases ht

theorem mem_sweep {e : LockEntry} :
    e ∈ (locks.sweep hash).entries ↔
      e ∈ locks.entries ∧ (e.hash = hash → e.references ≠ 0) := by
  rw [sweep, List.mem_filter]
  simp only [Bool.not_eq_true', decide_eq_false_iff_not, not_and]

theorem Tracks.sweep (h : locks.Tracks threads)
    (hi : threads[i]? = some ⟨call :: rest, .dropped answer, answers⟩) :
    (locks.sweep call.hash).Tracks (threads.set i ⟨rest, .idle, answers ++ [answer]⟩) where
  hashes_nodup := h.hashes_nodup.sublist (List.filter_sublist.map _)
  mutexes_nodup := h.mutexes_nodup.sublist (List.filter_sublist.map _)
  fresh e hmem := h.fresh e (mem_sweep.1 hmem).1
  entered j u hash mutex hj hu := by
    obtain ⟨rfl, rfl⟩ | ⟨_, hj⟩ := (getElem?_set_eq_some hi).1 hj
    · cases rest <;> cases hu
    · obtain ⟨e, he, rfl, rfl⟩ := h.entered j u hash mutex hj hu
      exact ⟨e, mem_sweep.2 ⟨he, fun _ => (h.references_ne_zero he).2 ⟨j, u, hj, hu⟩⟩, rfl, rfl⟩
  counted e hmem := by
    have hset := countReferences_set hi ⟨rest, .idle, answers ++ [answer]⟩ e.hash e.mutex
    rw [AmendThread.refers?_idle, AmendThread.refers?_dropped] at hset
    rw [h.counted e (mem_sweep.1 hmem).1]
    exact (Nat.add_right_cancel hset).symm
  amended e hmem := by
    obtain ⟨he, hlast⟩ := mem_sweep.1 hmem
    obtain ⟨j, u, hj, hu⟩ := h.amended e he
    by_cases hji : j = i
    · -- the thread that leaves is not the last one to refer to the mutex
      subst hji
      cases hi.symm.trans hj
      have hhash : e.hash = call.hash := (Option.some.inj hu).symm
      obtain ⟨k, v, hk, hv⟩ := (h.references_ne_zero he).1 (hlast hhash)
      refine ⟨k, v, (getElem?_set_eq_some hi).2 (.inr ⟨?_, hk⟩),
        AmendThread.amending?_of_refers? hv⟩
      rintro rfl
      cases hi.symm.trans hk
      cases hv
    · exact ⟨j, u, (getElem?_set_eq_some hi).2 (.inr ⟨hji, hj⟩), hu⟩
  exclusive := h.exclusive.set hi fun hash mutex ht => by cases rest <;> cases ht

end LockTable

end RedactableLedger
