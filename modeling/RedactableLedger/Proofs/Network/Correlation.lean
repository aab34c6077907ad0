import Mathlib.Data.List.Induction
import RedactableLedger.Proofs.Canonical
import RedactableLedger.Proofs.Network.Callers

namespace RedactableLedger

def BridgeCall.frame (call : BridgeCall) : Frame := call.query.frame call.id

theorem BridgeCall.frame_injective : Function.Injective BridgeCall.frame := by
  rintro ⟨id, root, hash⟩ ⟨id', root', hash'⟩ h
  have hroot : root = root' := by
    have htype : MessageType.request root = MessageType.request root' := congrArg Frame.type h
    cases root <;> cases root' <;> first | rfl | cases htype
  have hrequest : (⟨id, hash⟩ : AccountRequest) = ⟨id', hash'⟩ :=
    Layout.exact_accountRequest.encode_injective trivial trivial (congrArg Frame.payload h)
  cases hrequest
  rw [hroot]

namespace Bridge

variable {timeout : Nat} {b b' : Bridge} {e : Event} {es : List Event} {shown : List Effect}
  {calls sent : List BridgeCall} {call : BridgeCall} {id : UInt64} {answer : AccountAnswer}

theorem run_append (timeout : Nat) (b : Bridge) (es fs : List Event) :
    b.run timeout (es ++ fs) =
      (((b.run timeout es).1.run timeout fs).1,
        (b.run timeout es).2 ++ ((b.run timeout es).1.run timeout fs).2) := by
  induction es generalizing b with
  | nil => rfl
  | cons e rest ih =>
    simp only [List.cons_append, run, ih, List.append_assoc]

theorem registered_append (timeout : Nat) (b : Bridge) (es fs : List Event) :
    b.registered timeout (es ++ fs) =
      b.registered timeout es ++ (b.run timeout es).1.registered timeout fs := by
  induction es generalizing b with
  | nil => rfl
  | cons e rest ih =>
    simp only [List.cons_append, registered, run, ih, List.append_assoc]

def after (timeout : Nat) (es : List Event) : Bridge := (fresh.run timeout es).1

def effectsOf (timeout : Nat) (es : List Event) : List Effect := (fresh.run timeout es).2

def callsOf (timeout : Nat) (es : List Event) : List BridgeCall := fresh.registered timeout es

theorem after_concat (timeout : Nat) (es : List Event) (e : Event) :
    after timeout (es ++ [e]) = ((after timeout es).step timeout e).1 := by
  rw [after, run_append]
  rfl

theorem effectsOf_concat (timeout : Nat) (es : List Event) (e : Event) :
    effectsOf timeout (es ++ [e]) =
      effectsOf timeout es ++ ((after timeout es).step timeout e).2 := by
  rw [effectsOf, run_append]
  exact congrArg (effectsOf timeout es ++ ·) (List.append_nil _)

theorem callsOf_concat (timeout : Nat) (es : List Event) (e : Event) :
    callsOf timeout (es ++ [e]) = callsOf timeout es ++ (after timeout es).registers e := by
  rw [callsOf, registered_append]
  exact congrArg (callsOf timeout es ++ ·) (List.append_nil _)

theorem room_of_concat (h : (callsOf timeout (es ++ [e])).length < UInt64.size) :
    (callsOf timeout es).length < UInt64.size := by
  rw [callsOf_concat, List.length_append] at h
  omega

theorem numbered_of_run (es : List Event) (hroom : (callsOf timeout es).length < UInt64.size) :
    (after timeout es).Numbered (callsOf timeout es) := by
  induction es using List.reverseRecOn with
  | nil => exact numbered_fresh
  | append_singleton es e ih =>
    have hstep := fires_step timeout (after timeout es) e
    rw [callsOf_concat] at hroom ⊢
    rw [after_concat]
    exact hstep.numbered (ih (room_of_concat (callsOf_concat timeout es e ▸ hroom))) hroom

theorem attended_of_run (es : List Event) (hroom : (callsOf timeout es).length < UInt64.size) :
    (after timeout es).Attended (answered (effectsOf timeout es)) (callsOf timeout es) := by
  induction es using List.reverseRecOn with
  | nil => exact attended_fresh
  | append_singleton es e ih =>
    have hstep := fires_step timeout (after timeout es) e
    have hroom' := room_of_concat hroom
    rw [callsOf_concat] at hroom ⊢
    rw [after_concat, effectsOf_concat, answered_append]
    exact hstep.attended (numbered_of_run es hroom') hroom (ih hroom')

/-- Every request is sent once at most, and after it has entered the queue. -/
structure Sends (b : Bridge) (calls sent : List BridgeCall) : Prop where
  nodup : (sent ++ b.queue).Nodup
  called : ∀ call ∈ sent ++ b.queue, call ∈ calls
  unblocked : ∀ call ∈ sent ++ b.queue, call ∉ b.blocked
  flown : ∀ call ∈ b.inFlight, call ∈ sent

theorem Sends.mono (h : b.Sends calls sent) (new : List BridgeCall)
    (hqueue : b'.queue.Sublist b.queue) (hblocked : ∀ call ∈ b'.blocked, call ∈ b.blocked)
    (hflight : ∀ call ∈ b'.inFlight, call ∈ b.inFlight) : b'.Sends (calls ++ new) sent where
  nodup := h.nodup.sublist ((List.Sublist.refl sent).append hqueue)
  called call hcall := List.mem_append_left new
    (h.called call (((List.Sublist.refl sent).append hqueue).subset hcall))
  unblocked call hcall hmem :=
    h.unblocked call (((List.Sublist.refl sent).append hqueue).subset hcall)
      (hblocked call hmem)
  flown call hcall := h.flown call (hflight call hcall)

theorem Sends.register (h : b.Sends calls sent) (hnew : call ∉ calls)
    (hqueue : b'.queue = b.queue) (hblocked : b'.blocked = b.blocked ++ [call])
    (hflight : b'.inFlight = b.inFlight) : b'.Sends (calls ++ [call]) sent where
  nodup := by
    rw [hqueue]
    exact h.nodup
  called other hother := by
    rw [hqueue] at hother
    exact List.mem_append_left _ (h.called other hother)
  unblocked other hother hmem := by
    rw [hqueue] at hother
    rw [hblocked] at hmem
    obtain hmem | hmem := List.mem_append.1 hmem
    · exact h.unblocked other hother hmem
    · rw [List.mem_singleton.1 hmem] at hother
      exact hnew (h.called call hother)
  flown other hother := by
    rw [hflight] at hother
    exact h.flown other hother

theorem Sends.enqueue (h : b.Sends calls sent) (hcalled : call ∈ calls)
    (hblocked : call ∈ b.blocked) (new waiting : List BridgeCall) :
    Sends
      { b with
        blocked := b.blocked.filter (·.id ≠ call.id)
        queue := b.queue ++ [call]
        waiting := waiting }
      (calls ++ new) sent where
  nodup := by
    rw [← List.append_assoc, ← List.concat_eq_append]
    exact h.nodup.concat fun hcall => h.unblocked call hcall hblocked
  called other hother := by
    rw [← List.append_assoc] at hother
    obtain hother | hother := List.mem_append.1 hother
    · exact List.mem_append_left new (h.called other hother)
    · rw [List.mem_singleton.1 hother]
      exact List.mem_append_left new hcalled
  unblocked other hother hmem := by
    obtain ⟨hmem, hne⟩ := List.mem_filter.1 hmem
    rw [← List.append_assoc] at hother
    obtain hother | hother := List.mem_append.1 hother
    · exact h.unblocked other hother hmem
    · rw [List.mem_singleton.1 hother] at hne
      exact of_decide_eq_true hne rfl
  flown := h.flown

theorem Sends.dequeue (h : b.Sends calls sent) (hqueue : b.queue = call :: rest)
    (new : List BridgeCall) :
    Sends { b with queue := rest, inFlight := b.inFlight ++ [call] } (calls ++ new)
      (sent ++ [call]) := by
  have hsame : sent ++ b.queue = sent ++ [call] ++ rest := by
    rw [hqueue, List.append_assoc]
    rfl
  refine ⟨hsame ▸ h.nodup, fun other hother => List.mem_append_left new (h.called other ?_),
    hsame ▸ h.unblocked, fun other hother => ?_⟩
  · rw [hsame]
    exact hother
  · obtain hother | hother := List.mem_append.1 hother
    · exact List.mem_append_left _ (h.flown other hother)
    · exact List.mem_append_right _ hother

theorem Fires.sends (hstep : Fires timeout b e b' shown) (hnumbered : b.Numbered calls)
    (hroom : (calls ++ b.registers e).length < UInt64.size)
    (hcalled : ∀ call ∈ b.blocked, call ∈ calls) (h : b.Sends calls sent) :
    ∃ sent' : List BridgeCall,
      sent'.map BridgeCall.frame = sent.map BridgeCall.frame ++ framesIn shown ∧
        b'.Sends (calls ++ b.registers e) sent' := by
  have hquiet : framesIn shown = [] → b'.queue.Sublist b.queue →
      (∀ call ∈ b'.blocked, call ∈ b.blocked) → (∀ call ∈ b'.inFlight, call ∈ b.inFlight) →
      ∃ sent' : List BridgeCall,
        sent'.map BridgeCall.frame = sent.map BridgeCall.frame ++ framesIn shown ∧
          b'.Sends (calls ++ b.registers e) sent' := fun hnone hqueue hblocked hflight =>
    ⟨sent, by rw [hnone, List.append_nil], h.mono _ hqueue hblocked hflight⟩
  cases hstep with
  | idle => exact hquiet rfl (.refl _) (fun _ => id) fun _ => id
  | refuse => exact hquiet rfl (.refl _) (fun _ => id) fun _ => id
  | register hup =>
    rw [registers_of_up hup] at hroom ⊢
    rw [List.length_append, List.length_singleton] at hroom
    refine ⟨sent, (List.append_nil _).symm, h.register (fun hcall => ?_) rfl rfl rfl⟩
    exact hnumbered.next_not_mem hroom (List.mem_map_of_mem hcall)
  | enqueue hblocked _ =>
    exact ⟨sent, (List.append_nil _).symm, h.enqueue (hcalled _ hblocked) hblocked _ _⟩
  | dequeue _ hqueue => exact ⟨_, List.map_append, h.dequeue hqueue _⟩
  | deliver => exact hquiet rfl (.refl _) (fun _ => id) fun _ => List.mem_of_mem_filter
  | drop => exact hquiet rfl (.refl _) (fun _ => id) fun _ => List.mem_of_mem_filter
  | finish => exact hquiet rfl (.refl _) (fun _ => List.mem_of_mem_filter) fun _ => id
  | shutdown => exact hquiet rfl (.refl _) (fun _ => id) fun _ => id
  | stop => exact hquiet rfl (List.nil_sublist _) (fun _ => id) fun _ => id

theorem framesIn_append (shown more : List Effect) :
    framesIn (shown ++ more) = framesIn shown ++ framesIn more := List.filterMap_append

theorem mem_framesIn {frame : Frame} : frame ∈ framesIn shown ↔ .sent frame ∈ shown := by
  constructor
  · intro h
    obtain ⟨effect, heffect, hframe⟩ := List.mem_filterMap.1 h
    cases effect with
    | sent frame' =>
      cases hframe
      exact heffect
    | answered id answer => cases hframe
    | refused => cases hframe
  · intro h
    exact List.mem_filterMap.2 ⟨_, h, rfl⟩

theorem sends_of_run (es : List Event) (hroom : (callsOf timeout es).length < UInt64.size) :
    ∃ sent : List BridgeCall, framesIn (effectsOf timeout es) = sent.map BridgeCall.frame ∧
      (after timeout es).Sends (callsOf timeout es) sent := by
  induction es using List.reverseRecOn with
  | nil =>
    refine ⟨[], rfl, List.nodup_nil, ?_, ?_, ?_⟩ <;> exact fun _ hcall =>
      absurd hcall List.not_mem_nil
  | append_singleton es e ih =>
    have hstep := fires_step timeout (after timeout es) e
    have hroom' := room_of_concat hroom
    obtain ⟨sent, hframes, hsends⟩ := ih hroom'
    rw [callsOf_concat] at hroom ⊢
    rw [after_concat, effectsOf_concat, framesIn_append, hframes]
    have hattended := attended_of_run es hroom'
    obtain ⟨sent', hframes', hsends'⟩ := hstep.sends (numbered_of_run es hroom') hroom
      (fun call hcall => ((hattended.open_iff call).1 (.inl hcall)).1) hsends
    exact ⟨sent', hframes'.symm, hsends'⟩

/-- The exchange of the frame of a call ends among events, with a result. -/
def Exchanged (timeout : Nat) (es : List Event) (call : BridgeCall)
    (result : Except TransportFault Frame) : Prop :=
  ∃ pre post, es = pre ++ .reply call.id result :: post ∧ call ∈ (after timeout pre).inFlight ∧
    .sent call.frame ∈ effectsOf timeout pre

theorem Exchanged.concat {result : Except TransportFault Frame}
    (h : Exchanged timeout es call result) (e : Event) :
    Exchanged timeout (es ++ [e]) call result := by
  obtain ⟨pre, post, rfl, hflight⟩ := h
  exact ⟨pre, post ++ [e], by rw [List.append_assoc, List.cons_append], hflight⟩

/-- What a caller gets: the answer from the exchange of its own frame, or word of its time limit
or of the shutdown. -/
inductive Justified (timeout : Nat) (es : List Event) (call : BridgeCall) : AccountAnswer → Prop
  | replied {result : Except TransportFault Frame} (h : Exchanged timeout es call result) :
    Justified timeout es call (answerOf result)
  | expired (h : .expire call.id ∈ es) : Justified timeout es call (.error (.timeout timeout))
  | cancelled (h : .shutdown ∈ es) : Justified timeout es call (.error .cancelled)

theorem Justified.concat (h : Justified timeout es call answer) (e : Event) :
    Justified timeout (es ++ [e]) call answer := by
  cases h with
  | replied h => exact .replied (h.concat e)
  | expired h => exact .expired (List.mem_append_left _ h)
  | cancelled h => exact .cancelled (List.mem_append_left _ h)

/-- Answers and outcomes have their causes among the events. -/
structure Traced (timeout : Nat) (es : List Event) (b : Bridge) (shown : List Effect)
    (calls : List BridgeCall) : Prop where
  mail : ∀ id answer, (id, answer) ∈ b.mail → ∃ call ∈ calls, call.id = id ∧
    ∃ result, answer = answerOf result ∧ Exchanged timeout es call result
  outcome : ∀ id answer, .answered id answer ∈ shown → ∃ call ∈ calls, call.id = id ∧
    Justified timeout es call answer
  down : b.isDown = true → .shutdown ∈ es

theorem Traced.mono (h : Traced timeout es b shown calls) (e : Event) (new : List BridgeCall)
    {more : List Effect} (hmail : ∀ letter ∈ b'.mail, letter ∈ b.mail)
    (hdown : b'.isDown = true → b.isDown = true) (hmore : answered more = []) :
    Traced timeout (es ++ [e]) b' (shown ++ more) (calls ++ new) where
  mail id answer hletter := by
    obtain ⟨call, hcall, hid, result, hanswer, hexchanged⟩ := h.mail id answer (hmail _ hletter)
    exact ⟨call, List.mem_append_left _ hcall, hid, result, hanswer, hexchanged.concat e⟩
  outcome id answer hshown := by
    obtain hshown | hshown := List.mem_append.1 hshown
    · obtain ⟨call, hcall, hid, hjustified⟩ := h.outcome id answer hshown
      exact ⟨call, List.mem_append_left _ hcall, hid, hjustified.concat e⟩
    · have hnone : id ∈ answered more := mem_answered.2 ⟨answer, hshown⟩
      rw [hmore] at hnone
      cases hnone
  down hd := List.mem_append_left _ (h.down (hdown hd))

theorem Concludes.justified (hends : Concludes timeout b call e answer)
    (hattended : b.Attended (answered shown) calls) (h : Traced timeout es b shown calls) :
    ∃ call' ∈ calls, call'.id = call.id ∧ Justified timeout (es ++ [e]) call' answer := by
  have hcall : call ∈ calls := ((hattended.open_iff call).1 hends.isOpen).1
  cases hends with
  | closed _ hstopped =>
    exact ⟨call, hcall, rfl, .cancelled
      (List.mem_append_left _ (h.down (hattended.stopped hstopped)))⟩
  | received _ hmail =>
    obtain ⟨call', hcall', hid, result, rfl, hexchanged⟩ := h.mail _ _ hmail
    exact ⟨call', hcall', hid, .replied (hexchanged.concat _)⟩
  | expired => exact ⟨call, hcall, rfl, .expired (List.mem_append_right _ List.mem_cons_self)⟩
  | cancelled hwaiting hlost =>
    -- before a shutdown a caller who is still there is in the table or has mail
    have hdown : b.isDown = true := by
      obtain hdown | ⟨hpending, hmail⟩ := hlost
      · exact hdown
      · by_contra hup
        obtain hwanted | hwanted :=
          hattended.wanted (eq_false_of_ne_true hup) call (.inr hwaiting)
        · exact hpending hwanted
        · exact hmail hwanted
    exact ⟨call, hcall, rfl, .cancelled (List.mem_append_left _ (h.down hdown))⟩

theorem Fires.traced (hstep : Fires timeout (after timeout es) e b' shown)
    (hattended : (after timeout es).Attended (answered (effectsOf timeout es))
      (callsOf timeout es))
    (hflown : ∀ call ∈ (after timeout es).inFlight,
      call ∈ callsOf timeout es ∧ .sent call.frame ∈ effectsOf timeout es)
    (h : Traced timeout es (after timeout es) (effectsOf timeout es) (callsOf timeout es)) :
    Traced timeout (es ++ [e]) b' (effectsOf timeout es ++ shown)
      (callsOf timeout es ++ (after timeout es).registers e) := by
  cases hstep with
  | @deliver call result hflight hpending =>
    have hquiet : Traced timeout (es ++ [.reply call.id result]) (after timeout es)
        (effectsOf timeout es ++ []) (callsOf timeout es ++ []) :=
          h.mono _ _ (fun _ => id) id rfl
    -- the exchange that ends is that of the frame which the call was sent in
    obtain ⟨hcalled, hsent⟩ := hflown call hflight
    refine { hquiet with mail := fun id answer hletter => ?_ }
    obtain hletter | hletter := List.mem_append.1 hletter
    · exact hquiet.mail id answer hletter
    · cases List.mem_singleton.1 hletter
      exact ⟨call, List.mem_append_left _ hcalled, rfl, result, rfl, es, [], rfl,
        hflight, hsent⟩
  | @finish call answer _ hends =>
    have hquiet : Traced timeout (es ++ [e]) ((after timeout es).leave call.id)
        (effectsOf timeout es ++ []) (callsOf timeout es ++ (after timeout es).registers e) :=
      h.mono _ _ (fun _ => List.mem_of_mem_filter) id rfl
    rw [List.append_nil] at hquiet
    refine { hquiet with outcome := fun id answer' hshown => ?_ }
    obtain hshown | hshown := List.mem_append.1 hshown
    · exact hquiet.outcome id answer' hshown
    · cases List.mem_singleton.1 hshown
      obtain ⟨call', hcall', hid, hjustified⟩ := hends.justified hattended h
      exact ⟨call', List.mem_append_left _ hcall', hid, hjustified⟩
  | shutdown =>
    have hquiet : Traced timeout (es ++ [.shutdown]) (after timeout es)
        (effectsOf timeout es ++ []) (callsOf timeout es ++ []) :=
          h.mono _ _ (fun _ => id) id rfl
    exact { hquiet with down := fun _ => List.mem_append_right _ List.mem_cons_self }
  | _ => exact h.mono _ _ (fun _ => id) id rfl

theorem traced_of_run (es : List Event) (hroom : (callsOf timeout es).length < UInt64.size) :
    Traced timeout es (after timeout es) (effectsOf timeout es) (callsOf timeout es) := by
  induction es using List.reverseRecOn with
  | nil =>
    refine ⟨fun _ _ h => ?_, fun _ _ h => ?_, fun h => ?_⟩ <;> cases h
  | append_singleton es e ih =>
    have hroom' := room_of_concat hroom
    obtain ⟨sent, hframes, hsends⟩ := sends_of_run es hroom'
    have hstep := fires_step timeout (after timeout es) e
    rw [callsOf_concat, after_concat, effectsOf_concat]
    refine hstep.traced (attended_of_run es hroom') (fun call hcall => ?_) (ih hroom')
    have hsent : call ∈ sent := hsends.flown call hcall
    refine ⟨hsends.called call (List.mem_append_left _ hsent), mem_framesIn.1 ?_⟩
    rw [hframes]
    exact List.mem_map_of_mem hsent

theorem Fires.isDown (hstep : Fires timeout b e b' shown) (h : b.isDown = true) :
    b'.isDown = true := by
  cases hstep with
  | shutdown => rfl
  | _ => exact h

theorem Fires.isStopped (hstep : Fires timeout b e b' shown) (h : b.isStopped = true) :
    b'.isStopped = true := by
  cases hstep with
  | stop => rfl
  | _ => exact h

theorem Fires.isOpen_of_down (hstep : Fires timeout b e b' shown) (hdown : b.isDown = true)
    (hopen : b'.IsOpen call) : b.IsOpen call := by
  cases hstep with
  | register hup =>
    rw [hdown] at hup
    cases hup
  | @enqueue other hblocked _ =>
    obtain hopen | hopen := hopen
    · exact .inl (List.mem_of_mem_filter hopen)
    · obtain hopen | hopen := List.mem_append.1 hopen
      · exact .inr hopen
      · rw [List.mem_singleton.1 hopen]
        exact .inl hblocked
  | finish => exact (isOpen_leave.1 hopen).1
  | _ => exact hopen

theorem Fires.blocked_of_down (hstep : Fires timeout b e b' shown) (hdown : b.isDown = true)
    (hblocked : call ∈ b'.blocked) : call ∈ b.blocked := by
  cases hstep with
  | register hup =>
    rw [hdown] at hup
    cases hup
  | enqueue => exact List.mem_of_mem_filter hblocked
  | finish => exact List.mem_of_mem_filter hblocked
  | _ => exact hblocked

theorem run_keeps {P : Bridge → Prop} (hP : ∀ b e, P b → P (b.step timeout e).1) (h : P b)
    (es : List Event) : P (b.run timeout es).1 := by
  induction es generalizing b with
  | nil => exact h
  | cons e rest ih => exact ih (hP b e h)

/-- What an event brings about and steps keep holds after a run with that event. -/
theorem run_reaches {P Q : Bridge → Prop} (hQ : ∀ b e, Q b → Q (b.step timeout e).1)
    (hP : ∀ b e, Q b → P b → P (b.step timeout e).1) (he : ∀ b, Q b → P (b.step timeout e).1)
    (h : Q b) (hmem : e ∈ es) : P (b.run timeout es).1 := by
  induction es generalizing b with
  | nil => cases hmem
  | cons e' rest ih =>
    obtain rfl | hmem := List.mem_cons.1 hmem
    · exact (run_keeps (P := fun b => Q b ∧ P b)
        (fun b e h => ⟨hQ b e h.1, hP b e h.1 h.2⟩) ⟨hQ b e h, he b h⟩ rest).2
    · exact ih (hQ b e' h) hmem

theorem isDown_of_run (h : b.isDown = true) (es : List Event) :
    (b.run timeout es).1.isDown = true :=
  run_keeps (P := fun b => b.isDown = true) (fun b e => (fires_step timeout b e).isDown) h es

theorem isDown_of_mem (h : .shutdown ∈ es) : (b.run timeout es).1.isDown = true :=
  run_reaches (P := fun b => b.isDown = true) (Q := fun _ => True) (fun _ _ => id)
    (fun b e _ => (fires_step timeout b e).isDown) (fun _ _ => rfl) trivial h

theorem registered_of_down (h : b.isDown = true) (es : List Event) :
    b.registered timeout es = [] := by
  induction es generalizing b with
  | nil => rfl
  | cons e rest ih =>
    rw [registered, ih ((fires_step timeout b e).isDown h), List.append_nil]
    cases e with
    | register query => exact registers_of_down h query
    | _ => rfl

theorem not_blocked_of_enqueue (hstopped : b.isStopped = true) :
    ∀ call ∈ (b.step timeout (.enqueue id)).1.blocked, call.id ≠ id := by
  intro call hcall
  rw [step, enqueue] at hcall
  cases hfind : findCall b.blocked id with
  | none =>
    simp only [hfind] at hcall
    exact findCall_eq_none hfind hcall
  | some other =>
    simp only [hfind, if_pos hstopped] at hcall
    exact of_decide_eq_true (List.mem_filter.1 hcall).2

theorem not_open_of_cancel (hdown : b.isDown = true)
    (hblocked : ∀ call ∈ b.blocked, call.id ≠ id)
    (hopen : (b.step timeout (.cancel id)).1.IsOpen call) : call.id ≠ id := by
  rw [step, cancel] at hopen
  cases hfind : findCall b.waiting id with
  | none =>
    simp only [hfind] at hopen
    exact hopen.elim (hblocked call) (findCall_eq_none hfind)
  | some other =>
    simp only [hfind, hdown, Bool.true_or, if_true] at hopen
    exact (isOpen_leave.1 hopen).2

/-- After a shutdown every caller comes to an end: sending ends, the caller finds the queue
closed if it has not entered it, and notices the shutdown if it has. -/
theorem not_open_of_run (hdown : b.isDown = true)
    (hends : [.stop, .enqueue id, .cancel id].Sublist es)
    (hopen : (b.run timeout es).1.IsOpen call) : call.id ≠ id := by
  obtain ⟨first, rest, rfl, hstop, hends⟩ := List.cons_sublist_iff.1 hends
  obtain ⟨second, third, rfl, henqueue, hends⟩ := List.cons_sublist_iff.1 hends
  have hcancel : .cancel id ∈ third := List.singleton_sublist.1 hends
  rw [run_append, run_append] at hopen
  have hdown₁ : (b.run timeout first).1.isDown = true := isDown_of_run hdown first
  have hstopped : (b.run timeout first).1.isStopped = true :=
    run_reaches (P := fun b => b.isStopped = true) (Q := fun b => b.isDown = true)
      (fun b e => (fires_step timeout b e).isDown)
      (fun b e _ => (fires_step timeout b e).isStopped)
      (fun b hdown => by rw [step, if_pos hdown]) hdown hstop
  generalize (b.run timeout first).1 = b₁ at hdown₁ hstopped hopen
  have hdown₂ : (b₁.run timeout second).1.isDown = true := isDown_of_run hdown₁ second
  have hblocked : ∀ call ∈ (b₁.run timeout second).1.blocked, call.id ≠ id :=
    run_reaches (P := fun b => ∀ call ∈ b.blocked, call.id ≠ id)
      (Q := fun b => b.isDown = true ∧ b.isStopped = true)
      (fun b e h => ⟨(fires_step timeout b e).isDown h.1,
        (fires_step timeout b e).isStopped h.2⟩)
      (fun b e h hnone call hcall => hnone call
        ((fires_step timeout b e).blocked_of_down h.1 hcall))
      (fun b h => not_blocked_of_enqueue h.2) ⟨hdown₁, hstopped⟩ henqueue
  generalize (b₁.run timeout second).1 = b₂ at hdown₂ hblocked hopen
  exact run_reaches (P := fun b => ∀ call, b.IsOpen call → call.id ≠ id)
      (Q := fun b => b.isDown = true ∧ ∀ call ∈ b.blocked, call.id ≠ id)
      (fun b e h => ⟨(fires_step timeout b e).isDown h.1, fun call hcall =>
        h.2 call ((fires_step timeout b e).blocked_of_down h.1 hcall)⟩)
      (fun b e h hnone call hcall => hnone call
        ((fires_step timeout b e).isOpen_of_down h.1 hcall))
      (fun b h call => not_open_of_cancel h.1 h.2) ⟨hdown₂, hblocked⟩ hcancel call hopen

/-- A caller who is in the table at a shutdown gets no answer any more. -/
structure Abandoned (b : Bridge) (id : UInt64) : Prop where
  down : b.isDown = true
  cleared : b.pending = []
  unmailed : id ∉ b.mailed

theorem Fires.abandoned (hstep : Fires timeout b e b' shown) (h : b.Abandoned id) :
    b'.Abandoned id := by
  have hdown := hstep.isDown h.down
  cases hstep with
  | register hup =>
    rw [h.down] at hup
    cases hup
  | deliver _ hpending =>
    rw [h.cleared] at hpending
    cases hpending
  | finish =>
    refine ⟨hdown, ?_, fun hmail => h.unmailed (mem_mailed_leave.1 hmail).1⟩
    rw [leave, h.cleared]
    rfl
  | shutdown => exact ⟨rfl, rfl, h.unmailed⟩
  | stop => exact ⟨hdown, rfl, h.unmailed⟩
  | _ => exact ⟨hdown, h.cleared, h.unmailed⟩

theorem Fires.outcome_of_abandoned (hstep : Fires timeout b e b' shown) (h : b.Abandoned id)
    (hshown : .answered id answer ∈ shown) :
    answer = .error .cancelled ∨ answer = .error (.timeout timeout) ∧ e = .expire id := by
  cases hstep with
  | finish hends =>
    cases List.mem_singleton.1 hshown
    cases hends with
    | received _ hmail => exact absurd (List.mem_map_of_mem hmail) h.unmailed
    | expired => exact .inr ⟨rfl, rfl⟩
    | _ => exact .inl rfl
  | refuse => cases List.mem_singleton.1 hshown
  | dequeue => cases List.mem_singleton.1 hshown
  | _ => cases hshown

theorem outcome_of_abandoned (es : List Event) (h : b.Abandoned id)
    (hshown : .answered id answer ∈ (b.run timeout es).2) :
    answer = .error .cancelled ∨ answer = .error (.timeout timeout) ∧ .expire id ∈ es := by
  induction es generalizing b with
  | nil => cases hshown
  | cons e rest ih =>
    have hstep := fires_step timeout b e
    obtain hshown | hshown := List.mem_append.1 hshown
    · refine (hstep.outcome_of_abandoned h hshown).imp_right fun ⟨hanswer, he⟩ => ⟨hanswer, ?_⟩
      rw [he]
      exact List.mem_cons_self
    · exact (ih (hstep.abandoned h) hshown).imp_right
        fun ⟨hanswer, he⟩ => ⟨hanswer, List.mem_cons_of_mem _ he⟩

/-- An answer that nobody wants changes nothing but that its exchange has ended. -/
theorem reply_of_unwanted (h : id ∉ b.pending) (result : Except TransportFault Frame) :
    b.reply id result = (b.land id, []) := by
  rw [reply]
  cases hfind : findCall b.inFlight id with
  | none =>
    have hland : b.inFlight.filter (·.id ≠ id) = b.inFlight :=
      List.filter_eq_self.2 fun call hcall => decide_eq_true (findCall_eq_none hfind hcall)
    simp only [land, hland]
  | some call => simp only [if_neg h]

theorem findCall_isSome (h : call ∈ calls) : ∃ other, findCall calls call.id = some other := by
  cases hfind : findCall calls call.id with
  | none => exact absurd rfl (findCall_eq_none hfind h)
  | some other => exact ⟨other, rfl⟩

theorem findMail_concat (hmail : b.mail = b'.mail ++ [(id, answer)]) (h : id ∉ b'.mailed) :
    b.findMail id = some answer := by
  have hnone : b'.mail.find? (·.1 = id) = none := by
    refine List.find?_eq_none.2 fun letter hletter hid => h ?_
    rw [← of_decide_eq_true hid]
    exact List.mem_map_of_mem hletter
  rw [findMail, hmail, List.find?_append, hnone]
  simp

/-- A caller in the table gets the answer from the exchange of its frame when that ends. -/
theorem run_reply_receive (hflight : call ∈ b.inFlight) (hpending : call.id ∈ b.pending)
    (hwaiting : call ∈ b.waiting) (hmail : call.id ∉ b.mailed)
    (result : Except TransportFault Frame) :
    (b.run timeout [.reply call.id result, .receive call.id]).2 =
      [.answered call.id (answerOf result)] := by
  obtain ⟨_, hflies⟩ := findCall_isSome hflight
  have hreply : b.reply call.id result =
      ({ b.land call.id with
        pending := b.pending.filter (· ≠ call.id)
        mail := b.mail ++ [(call.id, answerOf result)] }, []) := by
    rw [reply, hflies]
    exact if_pos hpending
  obtain ⟨_, hwaits⟩ := findCall_isSome hwaiting
  have hreceive : ((b.reply call.id result).1.receive call.id).2 =
      [.answered call.id (answerOf result)] := by
    rw [hreply, receive, findMail_concat rfl hmail]
    simp only [land, hwaits, finish]
  simp only [run, step, hreceive, List.append_nil]
  rw [hreply]
  rfl

variable {pre post : List Event}

theorem after_shutdown (timeout : Nat) (pre post : List Event) :
    after timeout (pre ++ .shutdown :: post) =
      (((after timeout pre).step timeout .shutdown).1.run timeout post).1 := by
  rw [after, run_append]
  rfl

theorem effectsOf_shutdown (timeout : Nat) (pre post : List Event) :
    effectsOf timeout (pre ++ .shutdown :: post) =
      effectsOf timeout pre ++
        (((after timeout pre).step timeout .shutdown).1.run timeout post).2 := by
  rw [effectsOf, run_append]
  rfl

theorem callsOf_shutdown (timeout : Nat) (pre post : List Event) :
    callsOf timeout (pre ++ .shutdown :: post) = callsOf timeout pre := by
  have hdown : ((after timeout pre).step timeout .shutdown).1.isDown = true := rfl
  have hpost : (after timeout pre).registered timeout (.shutdown :: post) = [] :=
    registered_of_down hdown post
  rw [callsOf, registered_append]
  exact (congrArg (callsOf timeout pre ++ ·) hpost).trans (List.append_nil _)

theorem abandoned_of_pending (hroom : (callsOf timeout pre).length < UInt64.size)
    (hpending : id ∈ (after timeout pre).pending) :
    ((after timeout pre).step timeout .shutdown).1.Abandoned id :=
  ⟨rfl, rfl, ((attended_of_run pre hroom).pending_open id hpending).2⟩

theorem outcome_after_shutdown (hroom : (callsOf timeout pre).length < UInt64.size)
    (hpending : id ∈ (after timeout pre).pending)
    (hshown : .answered id answer ∈ effectsOf timeout (pre ++ .shutdown :: post)) :
    answer = .error .cancelled ∨ answer = .error (.timeout timeout) ∧ .expire id ∈ post := by
  rw [effectsOf_shutdown] at hshown
  obtain hshown | hshown := List.mem_append.1 hshown
  · have hopen := ((attended_of_run pre hroom).pending_open id hpending).1
    exact absurd (mem_answered.2 ⟨answer, hshown⟩) hopen
  · exact outcome_of_abandoned post (abandoned_of_pending hroom hpending) hshown

theorem answered_after_shutdown
    (hroom : (callsOf timeout (pre ++ .shutdown :: post)).length < UInt64.size)
    (hpending : id ∈ (after timeout pre).pending)
    (hends : [.stop, .enqueue id, .cancel id].Sublist post) :
    id ∈ answered (effectsOf timeout (pre ++ .shutdown :: post)) := by
  have hattended := attended_of_run (pre ++ .shutdown :: post) hroom
  rw [callsOf_shutdown] at hroom hattended
  obtain ⟨call, hcall, rfl⟩ :=
    List.mem_map.1 ((attended_of_run pre hroom).pending_called id hpending)
  by_contra hdone
  have hopen := (hattended.open_iff call).2 ⟨hcall, hdone⟩
  rw [after_shutdown] at hopen
  exact not_open_of_run rfl hends hopen rfl

/-- Requests, replies and outcomes belong together after events. -/
structure Correlated (timeout : Nat) (es : List Event) : Prop where
  numbers : ((callsOf timeout es).map (·.id)).Nodup
  once : (answered (effectsOf timeout es)).Nodup
  outcome : ∀ id answer, .answered id answer ∈ effectsOf timeout es →
    ∃ call ∈ callsOf timeout es, call.id = id ∧ Justified timeout es call answer
  delivered : ∀ call ∈ (after timeout es).inFlight, call.id ∈ (after timeout es).pending →
    ∀ result, ((after timeout es).run timeout [.reply call.id result, .receive call.id]).2 =
      [.answered call.id (answerOf result)]
  /-- A frame is that of a call which was registered, and is sent once. -/
  frames : (framesIn (effectsOf timeout es)).Nodup ∧
    ∀ frame ∈ framesIn (effectsOf timeout es), ∃ call ∈ callsOf timeout es, frame = call.frame
  /-- A reply that comes too late changes nothing but that its exchange has ended. -/
  late : ∀ id result, id ∈ answered (effectsOf timeout es) ∨ .shutdown ∈ es →
    (after timeout es).step timeout (.reply id result) = ((after timeout es).land id, [])
  pending : ∀ id ∈ (after timeout es).pending,
    id ∈ (callsOf timeout es).map (·.id) ∧ id ∉ answered (effectsOf timeout es)
  settled : (∀ call ∈ callsOf timeout es, call.id ∈ answered (effectsOf timeout es)) →
    (after timeout es).pending = []
  refused : ∀ pre post, es = pre ++ .shutdown :: post →
    callsOf timeout es = callsOf timeout pre ∧
      ∀ query, (after timeout es).step timeout (.register query) =
        (after timeout es, [.refused])
  /-- A caller in the table at a shutdown is cancelled unless its time limit passes first. -/
  cancelled : ∀ pre post, es = pre ++ .shutdown :: post → ∀ id ∈ (after timeout pre).pending,
    (∀ answer, .answered id answer ∈ effectsOf timeout es →
        answer = .error .cancelled ∨ answer = .error (.timeout timeout) ∧ .expire id ∈ post) ∧
      ([.stop, .enqueue id, .cancel id].Sublist post → id ∈ answered (effectsOf timeout es))

/-- In every order of events requests, replies and outcomes belong together. -/
theorem correlated_of_run (timeout : Nat) (es : List Event)
    (hroom : (callsOf timeout es).length < UInt64.size) : Correlated timeout es := by
  have hattended := attended_of_run es hroom
  obtain ⟨sent, hframes, hsends⟩ := sends_of_run es hroom
  have hnodup : sent.Nodup := hsends.nodup.sublist (List.sublist_append_left _ _)
  refine {
    numbers := (numbered_of_run es hroom).nodup
    once := hattended.done_nodup
    outcome := (traced_of_run es hroom).outcome
    delivered := fun call hflight hpending result => ?_
    frames := ⟨?_, fun frame hframe => ?_⟩
    late := fun id result hlate => reply_of_unwanted (fun hpending => ?_) result
    pending := fun id hid =>
      ⟨hattended.pending_called id hid, (hattended.pending_open id hid).1⟩
    settled := fun hall => List.eq_nil_iff_forall_not_mem.2 fun id hid => ?_
    refused := ?_
    cancelled := ?_ }
  · have hsent : call ∈ sent ++ (after timeout es).queue :=
      List.mem_append_left _ (hsends.flown call hflight)
    obtain ⟨hdone, hmail⟩ := hattended.pending_open call.id hpending
    obtain hblocked | hwaiting := (hattended.open_iff call).2 ⟨hsends.called call hsent, hdone⟩
    · exact absurd hblocked (hsends.unblocked call hsent)
    · exact run_reply_receive hflight hpending hwaiting hmail result
  · rw [hframes]
    exact hnodup.map BridgeCall.frame_injective
  · rw [hframes] at hframe
    obtain ⟨call, hcall, rfl⟩ := List.mem_map.1 hframe
    exact ⟨call, hsends.called call (List.mem_append_left _ hcall), rfl⟩
  · obtain hdone | hshutdown := hlate
    · exact (hattended.pending_open id hpending).1 hdone
    · rw [hattended.cleared (isDown_of_mem hshutdown)] at hpending
      cases hpending
  · obtain ⟨call, hcall, rfl⟩ := List.mem_map.1 (hattended.pending_called id hid)
    exact (hattended.pending_open _ hid).1 (hall call hcall)
  · rintro pre post rfl
    have hdown : (after timeout (pre ++ .shutdown :: post)).isDown = true :=
      isDown_of_mem (List.mem_append_right _ List.mem_cons_self)
    exact ⟨callsOf_shutdown timeout pre post, fun query => by rw [step, register, if_pos hdown]⟩
  · rintro pre post rfl id hpending
    refine ⟨fun answer => outcome_after_shutdown ?_ hpending,
      answered_after_shutdown hroom hpending⟩
    rwa [callsOf_shutdown] at hroom

/-- One caller gets its answer, and another is still waiting at the shutdown. -/
def twoCallers : List Event :=
  [.register ⟨false, .zero 32⟩, .register ⟨true, .zero 32⟩, .enqueue 1, .enqueue 2, .dequeue,
    .reply 1 (.ok ⟨.notFound, []⟩), .receive 1, .shutdown, .dequeue, .stop, .enqueue 2,
    .cancel 2]

theorem twoCallers_correlated :
    (callsOf 5 twoCallers).length < UInt64.size ∧ answered (effectsOf 5 twoCallers) = [1, 2] ∧
      ∀ answer, .answered 2 answer ∈ effectsOf 5 twoCallers → answer = .error .cancelled := by
  have hroom : (callsOf 5 twoCallers).length < UInt64.size := by decide
  refine ⟨hroom, by decide, fun answer hshown => ?_⟩
  obtain ⟨houtcome, _⟩ := (correlated_of_run 5 twoCallers hroom).cancelled (twoCallers.take 7)
    (twoCallers.drop 8) rfl 2 (by decide)
  obtain hcancelled | ⟨_, hexpire⟩ := houtcome answer hshown
  · exact hcancelled
  · simp [twoCallers] at hexpire

end Bridge

end RedactableLedger
