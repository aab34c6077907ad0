import Mathlib.Algebra.Ring.Nat
import RedactableLedger.Proofs.Concurrent.Step

namespace RedactableLedger

theorem sum_map_set_lt {α : Type} {l : List α} {i : Nat} {a b : α} {f : α → Nat}
    (h : l[i]? = some a) (hlt : f b < f a) : ((l.set i b).map f).sum < (l.map f).sum := by
  induction l generalizing i with
  | nil => cases h
  | cons x rest ih =>
    cases i with
    | zero =>
      cases h
      exact Nat.add_lt_add_right hlt _
    | succ i => exact Nat.add_lt_add_left (ih h) _

def SpanPhase.stepsLeft : SpanPhase → Nat
  | idle => 7
  | waiting _ => 6
  | holding _ => 5
  | loaded _ _ => 4
  | written _ _ => 3
  | released _ _ => 2
  | dropped _ => 1

def AmendThread.stepsLeft (t : AmendThread) : Nat :=
  match t.calls with
  | [] => 0
  | _ :: rest => ConcurrentRun.stepsPerCall * rest.length + t.phase.stepsLeft

namespace ConcurrentRun

variable {r r' : ConcurrentRun} {i : Nat} {call : AmendCall} {rest : List AmendCall}
  {phase : SpanPhase} {returned : List (Outcome Amendment.Answer)}

def stepsLeft (r : ConcurrentRun) : Nat := (r.threads.map (·.stepsLeft)).sum

theorem stepsLeft_step (hi : r.threads[i]? = some ⟨call :: rest, phase, returned⟩)
    (hfree : ∀ mutex, phase = .waiting mutex → r.isHeld mutex = false) :
    (r.step i).stepsLeft < r.stepsLeft := by
  rw [step, hi]
  cases phase with
  | waiting mutex =>
    simp only [stepThread, hfree mutex rfl]
    exact sum_map_set_lt hi (Nat.lt_succ_self _)
  | loaded mutex record =>
    simp only [stepThread]
    cases call.compute record with
    | error e => exact sum_map_set_lt hi (Nat.lt_succ_self _)
    | ok made => exact sum_map_set_lt hi (Nat.lt_succ_self _)
  | dropped answer =>
    refine sum_map_set_lt hi ?_
    cases rest with
    | nil => exact Nat.zero_lt_one
    | cons next rest => exact Nat.lt_succ_self _
  | _ => exact sum_map_set_lt hi (Nat.lt_succ_self _)

def Orderly (r : ConcurrentRun) : Prop := ∀ t ∈ r.threads, t.calls = [] → t.phase = .idle

theorem orderly_start (store : Store) (calls : List (List AmendCall)) :
    (start store calls).Orderly := by
  intro t ht _
  obtain ⟨cs, _, rfl⟩ := List.mem_map.1 ht
  rfl

theorem Orderly.setThread (h : r.Orderly) {t' : AmendThread}
    (ht : t'.calls = [] → t'.phase = .idle) (s : Store) (locks : LockTable)
    (acquired : List (Nat × AmendCall)) :
    (ConcurrentRun.setThread ⟨s, locks, r.threads, acquired⟩ i t').Orderly := by
  intro t hmem
  obtain hmem | rfl := List.mem_or_eq_of_mem_set hmem
  · exact h t hmem
  · exact ht

theorem Advances.orderly (hstep : Advances r i r') (h : r.Orderly) : r'.Orderly := by
  cases hstep with
  | stay => exact h
  | sweep => exact h.setThread (fun _ => rfl) _ _ _
  | _ => exact h.setThread (fun hnil => absurd hnil (List.cons_ne_nil _ _)) _ _ _

theorem orderly_of_run (h : r.Orderly) (interleaving : List Nat) :
    (r.run interleaving).Orderly := by
  induction interleaving generalizing r with
  | nil => exact h
  | cons i rest ih => exact ih ((advances_step r i).orderly h)

theorem exists_stepsLeft_lt (h : r.Orderly) {t : AmendThread} (ht : t ∈ r.threads)
    (hcalls : t.calls ≠ []) : ∃ i, (r.step i).stepsLeft < r.stepsLeft := by
  obtain ⟨i, hi⟩ := List.mem_iff_getElem?.1 ht
  obtain ⟨calls, phase, returned⟩ := t
  obtain ⟨call, rest, rfl⟩ := List.exists_cons_of_ne_nil hcalls
  by_cases hfree : ∀ mutex, phase = .waiting mutex → r.isHeld mutex = false
  · exact ⟨i, stepsLeft_step hi hfree⟩
  · -- the thread waits, and the one that holds the mutex does not
    push Not at hfree
    obtain ⟨mutex, rfl, hheld⟩ := hfree
    obtain ⟨u, hu, hholds⟩ := List.any_eq_true.1 (eq_true_of_ne_false hheld)
    have hheld : u.phase.held? = some mutex := of_decide_eq_true hholds
    obtain ⟨j, hj⟩ := List.mem_iff_getElem?.1 hu
    obtain ⟨calls, phase, returned⟩ := u
    cases calls with
    | nil =>
      rw [h _ hu rfl] at hheld
      cases hheld
    | cons call rest =>
      refine ⟨j, stepsLeft_step hj fun other hwaits => ?_⟩
      rw [hwaits] at hheld
      cases hheld

theorem exists_finishing (h : r.Orderly) :
    ∃ more, ∀ t ∈ (r.run more).threads, t.isFinished = true := by
  induction hn : r.stepsLeft using Nat.strongRecOn generalizing r with
  | ind n ih =>
    by_cases hfinished : ∀ t ∈ r.threads, t.isFinished = true
    · exact ⟨[], hfinished⟩
    · push Not at hfinished
      obtain ⟨t, ht, hcalls⟩ := hfinished
      obtain ⟨i, hlt⟩ := exists_stepsLeft_lt h ht fun hnil => hcalls (List.isEmpty_iff.2 hnil)
      obtain ⟨more, hmore⟩ := ih _ (hn ▸ hlt) ((advances_step r i).orderly h) rfl
      exact ⟨i :: more, hmore⟩

end ConcurrentRun

end RedactableLedger
