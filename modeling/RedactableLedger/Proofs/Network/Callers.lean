import Mathlib.Data.List.Nodup
import RedactableLedger.Network.Bridge

namespace RedactableLedger

namespace Bridge

def mailed (b : Bridge) : List UInt64 := b.mail.map (·.1)

def IsOpen (b : Bridge) (call : BridgeCall) : Prop := call ∈ b.blocked ∨ call ∈ b.waiting

inductive Concludes (timeout : Nat) (b : Bridge) (call : BridgeCall) :
    Event → AccountAnswer → Prop
  | closed (hblocked : call ∈ b.blocked) (hstopped : b.isStopped = true) :
    Concludes timeout b call (.enqueue call.id) (.error .cancelled)
  | received (hwaiting : call ∈ b.waiting) (hmail : (call.id, answer) ∈ b.mail) :
    Concludes timeout b call (.receive call.id) answer
  | expired (hwaiting : call ∈ b.waiting) (hmail : call.id ∉ b.mailed) :
    Concludes timeout b call (.expire call.id) (.error (.timeout timeout))
  | cancelled (hwaiting : call ∈ b.waiting)
    (h : b.isDown = true ∨ call.id ∉ b.pending ∧ call.id ∉ b.mailed) :
    Concludes timeout b call (.cancel call.id) (.error .cancelled)

/-- What an event can do. -/
inductive Fires (timeout : Nat) (b : Bridge) : Event → Bridge → List Effect → Prop
  | idle (hregister : ∀ query, e ≠ .register query) :
    Fires timeout b e b []
  | refuse (hdown : b.isDown = true) : Fires timeout b (.register query) b [.refused]
  | register (hup : b.isDown = false) :
    Fires timeout b (.register query)
      { b with
        nextId := b.nextId + 1
        blocked := b.blocked ++ [⟨b.nextId, query⟩]
        pending := b.pending ++ [b.nextId] } []
  | enqueue (hblocked : call ∈ b.blocked) (hrunning : b.isStopped = false) :
    Fires timeout b (.enqueue call.id)
      { b with
        blocked := b.blocked.filter (·.id ≠ call.id)
        queue := b.queue ++ [call]
        waiting := b.waiting ++ [call] } []
  | dequeue (hrunning : b.isStopped = false) (hqueue : b.queue = call :: rest) :
    Fires timeout b .dequeue { b with queue := rest, inFlight := b.inFlight ++ [call] }
      [.sent (call.query.frame call.id)]
  | deliver (hflight : call ∈ b.inFlight) (hpending : call.id ∈ b.pending) :
    Fires timeout b (.reply call.id result)
      { b.land call.id with
        pending := b.pending.filter (· ≠ call.id)
        mail := b.mail ++ [(call.id, answerOf result)] } []
  | drop (hflight : call ∈ b.inFlight) (hpending : call.id ∉ b.pending) :
    Fires timeout b (.reply call.id result) (b.land call.id) []
  | finish (hends : Concludes timeout b call e answer) :
    Fires timeout b e (b.leave call.id) [.answered call.id answer]
  | shutdown : Fires timeout b .shutdown { b with isDown := true, pending := [] } []
  | stop (hdown : b.isDown = true) :
    Fires timeout b .stop { b with isStopped := true, queue := [], pending := [] } []

variable {timeout : Nat} {b b' : Bridge} {e : Event} {shown : List Effect}
  {calls : List BridgeCall} {call : BridgeCall} {id : UInt64} {answer : AccountAnswer}

theorem findCall_eq_some (h : findCall calls id = some call) : call ∈ calls ∧ call.id = id :=
  ⟨List.mem_of_find?_eq_some h, by simpa using List.find?_some h⟩

theorem findCall_eq_none (h : findCall calls id = none) (hcall : call ∈ calls) :
    call.id ≠ id := by
  simpa using List.find?_eq_none.1 h call hcall

theorem mem_of_findMail (h : b.findMail id = some answer) : (id, answer) ∈ b.mail := by
  obtain ⟨⟨id', answer'⟩, hfind, rfl⟩ := Option.map_eq_some_iff.1 h
  obtain rfl : id' = id := by simpa using List.find?_some hfind
  exact List.mem_of_find?_eq_some hfind

theorem findMail_eq_none (h : b.findMail id = none) : id ∉ b.mailed := by
  intro hmem
  obtain ⟨letter, hletter, rfl⟩ := List.mem_map.1 hmem
  rw [findMail, Option.map_eq_none_iff] at h
  simpa using List.find?_eq_none.1 h letter hletter

theorem fires_register (timeout : Nat) (b : Bridge) (query : AccountQuery) :
    Fires timeout b (.register query) (b.register query).1 (b.register query).2 := by
  rw [register]
  split
  · exact .refuse ‹_›
  · exact .register (eq_false_of_ne_true ‹_›)

theorem fires_enqueue (timeout : Nat) (b : Bridge) (id : UInt64) :
    Fires timeout b (.enqueue id) (b.enqueue id).1 (b.enqueue id).2 := by
  rw [enqueue]
  cases hfind : findCall b.blocked id with
  | none => exact .idle nofun
  | some call =>
    obtain ⟨hblocked, rfl⟩ := findCall_eq_some hfind
    by_cases hstopped : b.isStopped = true
    · simp only [if_pos hstopped]
      exact .finish (.closed hblocked hstopped)
    · by_cases hroom : b.queue.length < capacity
      · simp only [if_neg hstopped, if_pos hroom]
        exact .enqueue hblocked (eq_false_of_ne_true hstopped)
      · simp only [if_neg hstopped, if_neg hroom]
        exact .idle nofun

theorem fires_dequeue (timeout : Nat) (b : Bridge) :
    Fires timeout b .dequeue b.dequeue.1 b.dequeue.2 := by
  rw [dequeue]
  split
  · exact .dequeue ‹_› ‹_›
  · exact .idle nofun

theorem fires_reply (timeout : Nat) (b : Bridge) (id : UInt64)
    (result : Except TransportFault Frame) :
    Fires timeout b (.reply id result) (b.reply id result).1 (b.reply id result).2 := by
  rw [reply]
  cases hfind : findCall b.inFlight id with
  | none => exact .idle nofun
  | some call =>
    obtain ⟨hflight, rfl⟩ := findCall_eq_some hfind
    by_cases hpending : call.id ∈ b.pending
    · simp only [if_pos hpending]
      exact .deliver hflight hpending
    · simp only [if_neg hpending]
      exact .drop hflight hpending

theorem fires_receive (timeout : Nat) (b : Bridge) (id : UInt64) :
    Fires timeout b (.receive id) (b.receive id).1 (b.receive id).2 := by
  rw [receive]
  cases hfind : findCall b.waiting id with
  | none => exact .idle nofun
  | some call =>
    obtain ⟨hwaiting, rfl⟩ := findCall_eq_some hfind
    cases hmail : b.findMail call.id with
    | none => exact .idle nofun
    | some answer => exact .finish (.received hwaiting (mem_of_findMail hmail))

theorem fires_expire (timeout : Nat) (b : Bridge) (id : UInt64) :
    Fires timeout b (.expire id) (expire timeout b id).1 (expire timeout b id).2 := by
  rw [expire]
  cases hfind : findCall b.waiting id with
  | none => exact .idle nofun
  | some call =>
    obtain ⟨hwaiting, rfl⟩ := findCall_eq_some hfind
    cases hmail : b.findMail call.id with
    | none => exact .finish (.expired hwaiting (findMail_eq_none hmail))
    | some answer => exact .idle nofun

theorem fires_cancel (timeout : Nat) (b : Bridge) (id : UInt64) :
    Fires timeout b (.cancel id) (b.cancel id).1 (b.cancel id).2 := by
  rw [cancel]
  cases hfind : findCall b.waiting id with
  | none => exact .idle nofun
  | some call =>
    obtain ⟨hwaiting, rfl⟩ := findCall_eq_some hfind
    dsimp only
    split
    · rename_i hlost
      refine .finish (.cancelled hwaiting ?_)
      obtain hdown | hlost := Bool.or_eq_true _ _ |>.mp hlost
      · exact .inl hdown
      · obtain ⟨hpending, hmail⟩ := Bool.and_eq_true _ _ |>.mp hlost
        exact .inr
          ⟨by simpa using hpending, findMail_eq_none (Option.isNone_iff_eq_none.1 hmail)⟩
    · exact .idle nofun

theorem fires_step (timeout : Nat) (b : Bridge) (e : Event) :
    Fires timeout b e (b.step timeout e).1 (b.step timeout e).2 := by
  cases e with
  | register query => exact fires_register timeout b query
  | enqueue id => exact fires_enqueue timeout b id
  | dequeue => exact fires_dequeue timeout b
  | reply id result => exact fires_reply timeout b id result
  | receive id => exact fires_receive timeout b id
  | expire id => exact fires_expire timeout b id
  | cancel id => exact fires_cancel timeout b id
  | shutdown => exact .shutdown
  | stop =>
    rw [step]
    split
    · exact .stop ‹_›
    · exact .idle nofun

theorem Concludes.isOpen (h : Concludes timeout b call e answer) : b.IsOpen call := by
  cases h with
  | closed hblocked _ => exact .inl hblocked
  | received hwaiting _ => exact .inr hwaiting
  | expired hwaiting _ => exact .inr hwaiting
  | cancelled hwaiting _ => exact .inr hwaiting

def registers (b : Bridge) : Event → List BridgeCall
  | .register query => if b.isDown then [] else [⟨b.nextId, query⟩]
  | _ => []

theorem registers_of_up (h : b.isDown = false) (query : AccountQuery) :
    b.registers (.register query) = [⟨b.nextId, query⟩] := by
  rw [registers, h]
  rfl

theorem registers_of_down (h : b.isDown = true) (query : AccountQuery) :
    b.registers (.register query) = [] := by
  rw [registers, h]
  rfl

theorem registers_eq_nil (h : ∀ query, e ≠ .register query) : b.registers e = [] := by
  cases e with
  | register query => exact absurd rfl (h query)
  | _ => rfl

theorem Concludes.registers (h : Concludes timeout b call e answer) : b.registers e = [] := by
  cases h <;> rfl

def registered (timeout : Nat) (b : Bridge) : List Event → List BridgeCall
  | [] => []
  | e :: rest => b.registers e ++ (b.step timeout e).1.registered timeout rest

def answered (shown : List Effect) : List UInt64 :=
  shown.filterMap fun
    | .answered id _ => some id
    | _ => none

theorem answered_append (shown more : List Effect) :
    answered (shown ++ more) = answered shown ++ answered more := List.filterMap_append

theorem mem_answered : id ∈ answered shown ↔ ∃ answer, .answered id answer ∈ shown := by
  constructor
  · intro h
    obtain ⟨effect, heffect, hid⟩ := List.mem_filterMap.1 h
    cases effect with
    | answered id' answer =>
      cases hid
      exact ⟨answer, heffect⟩
    | sent frame => cases hid
    | refused => cases hid
  · rintro ⟨answer, h⟩
    exact List.mem_filterMap.2 ⟨_, h, rfl⟩

/-- Calls are numbered from one on. -/
structure Numbered (b : Bridge) (calls : List BridgeCall) : Prop where
  next : b.nextId = UInt64.ofNat (calls.length + 1)
  bound : ∀ call ∈ calls, call.id.toNat ≤ calls.length
  nodup : (calls.map (·.id)).Nodup

theorem numbered_fresh : fresh.Numbered [] where
  next := rfl
  bound _ hcall := by cases hcall
  nodup := List.nodup_nil

theorem Numbered.toNat_next (h : b.Numbered calls) (hroom : calls.length + 1 < UInt64.size) :
    b.nextId.toNat = calls.length + 1 := by
  rw [h.next, UInt64.toNat_ofNat_of_lt' hroom]

theorem Numbered.next_not_mem (h : b.Numbered calls) (hroom : calls.length + 1 < UInt64.size) :
    b.nextId ∉ calls.map (·.id) := by
  intro hmem
  obtain ⟨call, hcall, hid⟩ := List.mem_map.1 hmem
  have hbound := h.bound call hcall
  rw [hid, h.toNat_next hroom] at hbound
  omega

theorem Numbered.register (h : b.Numbered calls) (hroom : calls.length + 1 < UInt64.size)
    (query : AccountQuery) (blocked : List BridgeCall) (pending : List UInt64) :
    Numbered { b with nextId := b.nextId + 1, blocked := blocked, pending := pending }
      (calls ++ [⟨b.nextId, query⟩]) where
  next := by
    rw [List.length_append, List.length_singleton, UInt64.ofNat_add (calls.length + 1), h.next]
    rfl
  bound call hcall := by
    rw [List.length_append, List.length_singleton]
    obtain hcall | hcall := List.mem_append.1 hcall
    · exact Nat.le_succ_of_le (h.bound call hcall)
    · rw [List.mem_singleton.1 hcall]
      exact Nat.le_of_eq (h.toNat_next hroom)
  nodup := by
    rw [List.map_append, List.map_singleton, ← List.concat_eq_append]
    exact h.nodup.concat (h.next_not_mem hroom)

theorem Fires.numbered (hstep : Fires timeout b e b' shown) (h : b.Numbered calls)
    (hroom : (calls ++ b.registers e).length < UInt64.size) :
    b'.Numbered (calls ++ b.registers e) := by
  cases hstep with
  | idle hregister =>
    rw [registers_eq_nil hregister, List.append_nil]
    exact h
  | refuse hdown =>
    rw [registers_of_down hdown, List.append_nil]
    exact h
  | register hup =>
    rw [registers_of_up hup] at hroom ⊢
    rw [List.length_append, List.length_singleton] at hroom
    exact h.register hroom _ _ _
  | finish hends =>
    rw [hends.registers, List.append_nil]
    exact { h with }
  | _ =>
    change Numbered _ (calls ++ [])
    rw [List.append_nil]
    exact { h with }

/-- The callers who are still there are those who got no outcome, and the table has numbers of
such callers alone. -/
structure Attended (b : Bridge) (done : List UInt64) (calls : List BridgeCall) : Prop where
  open_iff : ∀ call, b.IsOpen call ↔ call ∈ calls ∧ call.id ∉ done
  done_nodup : done.Nodup
  done_called : ∀ id ∈ done, id ∈ calls.map (·.id)
  pending_called : ∀ id ∈ b.pending, id ∈ calls.map (·.id)
  pending_open : ∀ id ∈ b.pending, id ∉ done ∧ id ∉ b.mailed
  mailed_called : ∀ id ∈ b.mailed, id ∈ calls.map (·.id)
  wanted : b.isDown = false → ∀ call, b.IsOpen call → call.id ∈ b.pending ∨ call.id ∈ b.mailed
  cleared : b.isDown = true → b.pending = []
  stopped : b.isStopped = true → b.isDown = true

variable {done : List UInt64}

theorem attended_fresh : fresh.Attended [] [] where
  open_iff call := by simp [IsOpen, fresh]
  done_nodup := List.nodup_nil
  done_called _ h := by cases h
  pending_called _ h := by cases h
  pending_open _ h := by cases h
  mailed_called _ h := by cases h
  wanted _ call h := by simp [IsOpen, fresh] at h
  cleared _ := rfl
  stopped h := by cases h

theorem Attended.register (h : b.Attended done calls) (hup : b.isDown = false)
    (hnext : b.nextId ∉ calls.map (·.id)) (query : AccountQuery) :
    Attended
      { b with
        nextId := b.nextId + 1
        blocked := b.blocked ++ [⟨b.nextId, query⟩]
        pending := b.pending ++ [b.nextId] }
      done (calls ++ [⟨b.nextId, query⟩]) where
  open_iff call := by
    have hnew : call = ⟨b.nextId, query⟩ → call.id ∉ done := by
      rintro rfl hdone
      exact hnext (h.done_called _ hdone)
    have hold := h.open_iff call
    simp only [IsOpen, List.mem_append, List.mem_singleton] at hold ⊢
    tauto
  done_nodup := h.done_nodup
  done_called id hid := by
    rw [List.map_append]
    exact List.mem_append_left _ (h.done_called id hid)
  pending_called id hid := by
    rw [List.map_append]
    obtain hid | hid := List.mem_append.1 hid
    · exact List.mem_append_left _ (h.pending_called id hid)
    · exact List.mem_append_right _ hid
  pending_open id hid := by
    obtain hid | hid := List.mem_append.1 hid
    · exact h.pending_open id hid
    · rw [List.mem_singleton.1 hid]
      exact ⟨fun hdone => hnext (h.done_called _ hdone),
        fun hmail => hnext (h.mailed_called _ hmail)⟩
  mailed_called id hid := by
    rw [List.map_append]
    exact List.mem_append_left _ (h.mailed_called id hid)
  wanted _ call hopen := by
    have hold := h.wanted hup call
    simp only [IsOpen, List.mem_append, List.mem_singleton] at hold hopen ⊢
    obtain (hblocked | rfl) | hwaiting := hopen
    · exact (hold (.inl hblocked)).imp_left .inl
    · exact .inl (.inr rfl)
    · exact (hold (.inr hwaiting)).imp_left .inl
  cleared hdown := by
    rw [hup] at hdown
    cases hdown
  stopped := h.stopped

theorem Attended.enqueue (h : b.Attended done calls) (hnodup : (calls.map (·.id)).Nodup)
    (hblocked : call ∈ b.blocked) (queue : List BridgeCall) :
    Attended
      { b with
        blocked := b.blocked.filter (·.id ≠ call.id)
        queue := queue
        waiting := b.waiting ++ [call] }
      done calls := by
  have hopen : ∀ other, IsOpen { b with
        blocked := b.blocked.filter (·.id ≠ call.id)
        queue := queue
        waiting := b.waiting ++ [call] } other ↔ b.IsOpen other := by
    intro other
    have hsame : other ∈ b.blocked → other.id = call.id → other = call := fun hother =>
      List.inj_on_of_nodup_map hnodup ((h.open_iff other).1 (.inl hother)).1
        ((h.open_iff call).1 (.inl hblocked)).1
    simp only [IsOpen, List.mem_filter, List.mem_append, List.mem_singleton, decide_eq_true_eq]
    constructor
    · rintro (⟨hother, _⟩ | hother | rfl)
      · exact .inl hother
      · exact .inr hother
      · exact .inl hblocked
    · rintro (hother | hother)
      · by_cases hid : other.id = call.id
        · exact .inr (.inr (hsame hother hid))
        · exact .inl ⟨hother, hid⟩
      · exact .inr (.inl hother)
  exact { h with
    open_iff := fun other => (hopen other).trans (h.open_iff other)
    wanted := fun hup other hother => h.wanted hup other ((hopen other).1 hother) }

theorem Attended.deliver (h : b.Attended done calls) (hpending : id ∈ b.pending)
    (answer : AccountAnswer) :
    Attended
      { b.land id with
        pending := b.pending.filter (· ≠ id)
        mail := b.mail ++ [(id, answer)] }
      done calls where
  open_iff := h.open_iff
  done_nodup := h.done_nodup
  done_called := h.done_called
  pending_called other hother := h.pending_called other (List.mem_filter.1 hother).1
  pending_open other hother := by
    obtain ⟨hother, hne⟩ := List.mem_filter.1 hother
    obtain ⟨hdone, hmail⟩ := h.pending_open other hother
    refine ⟨hdone, fun hmem => ?_⟩
    rw [mailed, List.map_append] at hmem
    obtain hmem | hmem := List.mem_append.1 hmem
    · exact hmail hmem
    · exact of_decide_eq_true hne (List.mem_singleton.1 hmem)
  mailed_called other hmem := by
    rw [mailed, List.map_append] at hmem
    obtain hmem | hmem := List.mem_append.1 hmem
    · exact h.mailed_called other hmem
    · rw [List.mem_singleton.1 hmem]
      exact h.pending_called id hpending
  wanted hup call hopen := by
    have hold := h.wanted hup call hopen
    simp only [mailed, List.map_append, List.mem_append, List.mem_filter, decide_eq_true_eq,
      List.map_cons, List.map_nil, List.mem_singleton] at hold ⊢
    tauto
  cleared hdown := by
    rw [h.cleared hdown] at hpending
    cases hpending
  stopped := h.stopped

theorem isOpen_leave {other : BridgeCall} :
    (b.leave id).IsOpen other ↔ b.IsOpen other ∧ other.id ≠ id := by
  simp only [IsOpen, leave, List.mem_filter, decide_eq_true_eq]
  tauto

theorem mem_mailed_leave {other : UInt64} :
    other ∈ (b.leave id).mailed ↔ other ∈ b.mailed ∧ other ≠ id := by
  simp only [mailed, leave, List.mem_map, List.mem_filter, decide_eq_true_eq]
  constructor
  · rintro ⟨letter, ⟨hletter, hne⟩, rfl⟩
    exact ⟨⟨letter, hletter, rfl⟩, hne⟩
  · rintro ⟨⟨letter, hletter, rfl⟩, hne⟩
    exact ⟨letter, ⟨hletter, hne⟩, rfl⟩

theorem mem_pending_leave {other : UInt64} :
    other ∈ (b.leave id).pending ↔ other ∈ b.pending ∧ other ≠ id := by
  simp only [leave, List.mem_filter, decide_eq_true_eq]

theorem Attended.leave (h : b.Attended done calls) (hopen : b.IsOpen call) :
    (b.leave call.id).Attended (done ++ [call.id]) calls where
  open_iff other := by
    rw [isOpen_leave, h.open_iff, List.mem_append, List.mem_singleton]
    tauto
  done_nodup := by
    rw [← List.concat_eq_append]
    exact h.done_nodup.concat ((h.open_iff call).1 hopen).2
  done_called id hid := by
    obtain hid | hid := List.mem_append.1 hid
    · exact h.done_called id hid
    · rw [List.mem_singleton.1 hid]
      exact List.mem_map_of_mem ((h.open_iff call).1 hopen).1
  pending_called id hid := h.pending_called id (mem_pending_leave.1 hid).1
  pending_open id hid := by
    obtain ⟨hid, hne⟩ := mem_pending_leave.1 hid
    obtain ⟨hdone, hmail⟩ := h.pending_open id hid
    refine ⟨fun hmem => ?_, fun hmem => hmail (mem_mailed_leave.1 hmem).1⟩
    obtain hmem | hmem := List.mem_append.1 hmem
    · exact hdone hmem
    · exact hne (List.mem_singleton.1 hmem)
  mailed_called id hid := h.mailed_called id (mem_mailed_leave.1 hid).1
  wanted hup other hother := by
    obtain ⟨hother, hne⟩ := isOpen_leave.1 hother
    rw [mem_pending_leave, mem_mailed_leave]
    exact (h.wanted hup other hother).imp (⟨·, hne⟩) (⟨·, hne⟩)
  cleared hdown := by
    rw [Bridge.leave, h.cleared hdown]
    rfl
  stopped := h.stopped

/-- At the shutdown, and again when sending ends, the table is emptied. -/
theorem Attended.clear (h : b.Attended done calls) (queue : List BridgeCall) {isDown : Bool}
    (hdown : isDown = true) (isStopped : Bool) :
    Attended
      { b with
        queue := queue
        pending := []
        isDown := isDown
        isStopped := isStopped }
      done calls where
  open_iff := h.open_iff
  done_nodup := h.done_nodup
  done_called := h.done_called
  pending_called _ hid := by cases hid
  pending_open _ hid := by cases hid
  mailed_called := h.mailed_called
  wanted hup := by
    rw [hdown] at hup
    cases hup
  cleared _ := rfl
  stopped _ := hdown

theorem Fires.attended (hstep : Fires timeout b e b' shown) (hnumbered : b.Numbered calls)
    (hroom : (calls ++ b.registers e).length < UInt64.size) (h : b.Attended done calls) :
    b'.Attended (done ++ answered shown) (calls ++ b.registers e) := by
  cases hstep with
  | idle hregister =>
    change Attended _ (done ++ []) _
    rw [registers_eq_nil hregister, List.append_nil, List.append_nil]
    exact h
  | refuse hdown =>
    change Attended _ (done ++ []) _
    rw [registers_of_down hdown, List.append_nil, List.append_nil]
    exact h
  | register hup =>
    rw [registers_of_up hup] at hroom ⊢
    rw [List.length_append, List.length_singleton] at hroom
    change Attended _ (done ++ []) _
    rw [List.append_nil]
    exact h.register hup (hnumbered.next_not_mem hroom) _
  | enqueue hblocked _ =>
    change Attended _ (done ++ []) (calls ++ [])
    rw [List.append_nil, List.append_nil]
    exact h.enqueue hnumbered.nodup hblocked _
  | deliver _ hpending =>
    change Attended _ (done ++ []) (calls ++ [])
    rw [List.append_nil, List.append_nil]
    exact h.deliver hpending _
  | finish hends =>
    rw [hends.registers, List.append_nil]
    exact h.leave hends.isOpen
  | shutdown =>
    change Attended _ (done ++ []) (calls ++ [])
    rw [List.append_nil, List.append_nil]
    exact h.clear b.queue rfl b.isStopped
  | stop hdown =>
    change Attended _ (done ++ []) (calls ++ [])
    rw [List.append_nil, List.append_nil]
    exact h.clear [] hdown true
  | _ =>
    change Attended _ (done ++ []) (calls ++ [])
    rw [List.append_nil, List.append_nil]
    exact { h with }

end Bridge

end RedactableLedger
