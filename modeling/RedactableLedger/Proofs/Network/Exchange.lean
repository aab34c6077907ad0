import RedactableLedger.Network.Exchange
import RedactableLedger.Proofs.Network.Correlation

namespace RedactableLedger

namespace Bridge

variable {timeout : Nat} {b b' : Bridge} {e : Event} {es : List Event} {shown : List Effect}
  {call : BridgeCall} {calls : List BridgeCall} {id : UInt64} {answer : AccountAnswer}

structure NumberedBelow (b : Bridge) (bound : UInt64) : Prop where
  blocked : ∀ call ∈ b.blocked, call.id < bound
  queue : ∀ call ∈ b.queue, call.id < bound
  inFlight : ∀ call ∈ b.inFlight, call.id < bound
  waiting : ∀ call ∈ b.waiting, call.id < bound
  pending : ∀ id ∈ b.pending, id < bound
  mail : ∀ letter ∈ b.mail, letter.1 < bound

/-- A bridge that runs, with a next number that was not given away yet. -/
structure Serves (b : Bridge) : Prop where
  up : b.isDown = false
  running : b.isStopped = false
  below : b.NumberedBelow b.nextId

theorem serves_of_run (es : List Event) (hroom : (callsOf timeout es).length + 1 < UInt64.size)
    (hup : (after timeout es).isDown = false) : (after timeout es).Serves := by
  have hroom' : (callsOf timeout es).length < UInt64.size := Nat.lt_of_succ_lt hroom
  have hnumbered := numbered_of_run es hroom'
  have hattended := attended_of_run es hroom'
  obtain ⟨sent, _, hsends⟩ := sends_of_run es hroom'
  have hcalled : ∀ call ∈ callsOf timeout es, call.id < (after timeout es).nextId := by
    intro call hcall
    rw [UInt64.lt_iff_toNat_lt, hnumbered.toNat_next hroom]
    exact Nat.lt_succ_of_le (hnumbered.bound call hcall)
  have hused : ∀ id ∈ (callsOf timeout es).map (·.id), id < (after timeout es).nextId := by
    intro id hid
    obtain ⟨call, hcall, rfl⟩ := List.mem_map.1 hid
    exact hcalled call hcall
  refine ⟨hup, ?_, ?_, ?_, ?_, ?_, ?_, ?_⟩
  · refine Bool.eq_false_iff.2 fun hstopped => ?_
    rw [hattended.stopped hstopped] at hup
    cases hup
  · exact fun call hcall => hcalled call ((hattended.open_iff call).1 (.inl hcall)).1
  · exact fun call hcall => hcalled call (hsends.called call (List.mem_append_right _ hcall))
  · exact fun call hcall =>
      hcalled call (hsends.called call (List.mem_append_left _ (hsends.flown call hcall)))
  · exact fun call hcall => hcalled call ((hattended.open_iff call).1 (.inr hcall)).1
  · exact fun id hid => hused id (hattended.pending_called id hid)
  · exact fun letter hletter =>
      hused _ (hattended.mailed_called _ (List.mem_map_of_mem hletter))

section Numbers

variable {α : Type} {f : α → UInt64} {l : List α} {a : α}

theorem filter_of_below (h : ∀ x ∈ l, f x < id) : l.filter (f · ≠ id) = l :=
  List.filter_eq_self.2 fun x hx => decide_eq_true (UInt64.ne_of_lt (h x hx))

theorem find?_of_below (h : ∀ x ∈ l, f x < id) : l.find? (f · = id) = none :=
  List.find?_eq_none.2 fun x hx hsame => UInt64.ne_of_lt (h x hx) (of_decide_eq_true hsame)

theorem filter_concat (h : ∀ x ∈ l, f x < f a) : (l ++ [a]).filter (f · ≠ f a) = l := by
  rw [List.filter_append, filter_of_below h]
  simp

theorem find?_concat (h : ∀ x ∈ l, f x < f a) : (l ++ [a]).find? (f · = f a) = some a := by
  rw [List.find?_append, find?_of_below h]
  simp

end Numbers

def next (b : Bridge) (query : AccountQuery) : BridgeCall := ⟨b.nextId, query⟩

theorem findCall_next (h : ∀ call ∈ calls, call.id < b.nextId) (query : AccountQuery) :
    findCall (calls ++ [b.next query]) b.nextId = some (b.next query) :=
  find?_concat (f := BridgeCall.id) (a := b.next query) h

theorem filter_next (h : ∀ call ∈ calls, call.id < b.nextId) (query : AccountQuery) :
    (calls ++ [b.next query]).filter (·.id ≠ b.nextId) = calls :=
  filter_concat (f := BridgeCall.id) (a := b.next query) h

theorem NumberedBelow.filter_pending (h : b.NumberedBelow b.nextId) :
    (b.pending ++ [b.nextId]).filter (· ≠ b.nextId) = b.pending :=
  filter_concat (f := fun id => id) h.pending

def flushed (b : Bridge) : Bridge := { b with queue := [], inFlight := b.inFlight ++ b.queue }

def entered (b : Bridge) (query : AccountQuery) : Bridge :=
  { b with
    nextId := b.nextId + 1
    blocked := b.blocked ++ [b.next query]
    pending := b.pending ++ [b.nextId] }

/-- The bridge while the next caller waits, with what is in the queue and what is under way by
then. -/
def awaited (b : Bridge) (query : AccountQuery) (queue inFlight : List BridgeCall) : Bridge :=
  { b with
    nextId := b.nextId + 1
    queue := queue
    inFlight := inFlight
    waiting := b.waiting ++ [b.next query]
    pending := b.pending ++ [b.nextId] }

/-- The bridge after the next caller has come and gone, with what is in the queue and what is
under way by then. -/
def passed (b : Bridge) (queue inFlight : List BridgeCall) : Bridge :=
  { b with
    nextId := b.nextId + 1
    queue := queue
    inFlight := inFlight }

theorem Serves.flushed (h : b.Serves) : b.flushed.Serves where
  up := h.up
  running := h.running
  below := { h.below with
    queue := fun _ hcall => absurd hcall List.not_mem_nil
    inFlight := fun call hcall =>
      (List.mem_append.1 hcall).elim (h.below.inFlight call) (h.below.queue call) }

theorem run_cons (h : b.step timeout e = (b', shown)) :
    b.run timeout (e :: es) = ((b'.run timeout es).1, shown ++ (b'.run timeout es).2) := by
  rw [run, h]

theorem step_register (hup : b.isDown = false) (query : AccountQuery) :
    b.step timeout (.register query) = (b.entered query, []) := by
  rw [step, register, if_neg (Bool.eq_false_iff.1 hup)]
  rfl

theorem step_enqueue (hfind : findCall b.blocked id = some call)
    (hrunning : b.isStopped = false) (hroom : b.queue.length < capacity) :
    b.step timeout (.enqueue id) = ({ b with
      blocked := b.blocked.filter (·.id ≠ id)
      queue := b.queue ++ [call]
      waiting := b.waiting ++ [call] }, []) := by
  simp only [step, enqueue, hfind, if_neg (Bool.eq_false_iff.1 hrunning), if_pos hroom]

theorem step_dequeue (hrunning : b.isStopped = false) (hqueue : b.queue = call :: calls) :
    b.step timeout .dequeue =
      ({ b with queue := calls, inFlight := b.inFlight ++ [call] }, [.sent call.frame]) := by
  simp only [step, dequeue, hrunning, hqueue]
  rfl

theorem step_reply (hfind : findCall b.inFlight id = some call) (hpending : id ∈ b.pending)
    (result : Except TransportFault Frame) :
    b.step timeout (.reply id result) = ({ b.land id with
      pending := b.pending.filter (· ≠ id)
      mail := b.mail ++ [(id, answerOf result)] }, []) := by
  simp only [step, reply, hfind, if_pos hpending]

theorem step_receive (hfind : findCall b.waiting id = some call)
    (hmail : b.findMail id = some answer) :
    b.step timeout (.receive id) = (b.leave id, [.answered id answer]) := by
  simp only [step, receive, hfind, hmail, finish]

theorem step_expire (hfind : findCall b.waiting id = some call) (hmail : b.findMail id = none) :
    b.step timeout (.expire id) = (b.leave id, [.answered id (.error (.timeout timeout))]) := by
  simp only [step, expire, hfind, hmail, finish]

theorem step_of_gone (hfind : findCall b.waiting id = none) :
    b.step timeout (.receive id) = (b, []) ∧ b.step timeout (.expire id) = (b, []) := by
  simp only [step, receive, expire, hfind, and_self]

theorem run_clearing (timeout : Nat) (hrunning : b.isStopped = false) :
    b.run timeout b.clearing = (b.flushed, b.queue.map fun call => .sent call.frame) := by
  rw [clearing]
  generalize hqueue : b.queue = queue
  induction queue generalizing b with
  | nil =>
    have hflushed : b.flushed = b := by
      rw [Bridge.flushed, hqueue, List.append_nil, ← hqueue]
    rw [hflushed]
    rfl
  | cons call calls ih =>
    let sent : Bridge := { b with queue := calls, inFlight := b.inFlight ++ [call] }
    have hflushed : sent.flushed = b.flushed := by
      simp only [Bridge.flushed, sent, hqueue, List.append_assoc, List.singleton_append]
    have hrest : sent.run timeout (List.replicate calls.length .dequeue) =
        (sent.flushed, calls.map fun call => .sent call.frame) := ih hrunning rfl
    have hdequeue : b.step timeout .dequeue = (sent, [.sent call.frame]) :=
      step_dequeue hrunning hqueue
    rw [List.length_cons, List.replicate_succ, run_cons hdequeue, hrest, hflushed]
    rfl

theorem Serves.run_enqueue (h : b.Serves) (hroom : b.queue.length < capacity)
    (query : AccountQuery) (es : List Event) :
    b.run timeout (.register query :: .enqueue b.nextId :: es) =
      (b.awaited query (b.queue ++ [b.next query]) b.inFlight).run timeout es := by
  have henqueue : (b.entered query).step timeout (.enqueue b.nextId) =
      (b.awaited query (b.queue ++ [b.next query]) b.inFlight, []) := by
    rw [step_enqueue (b := b.entered query)
      (findCall_next h.below.blocked query) h.running hroom]
    simp only [entered, filter_next h.below.blocked, awaited]
  rw [run_cons (step_register h.up query), run_cons henqueue]
  rfl

theorem Serves.run_send (h : b.Serves) (hempty : b.queue = []) (query : AccountQuery)
    (es : List Event) :
    b.run timeout (.register query :: .enqueue b.nextId :: .dequeue :: es) =
      (((b.awaited query [] (b.inFlight ++ [b.next query])).run timeout es).1,
        .sent (b.next query).frame ::
          ((b.awaited query [] (b.inFlight ++ [b.next query])).run timeout es).2) := by
  have hdequeue : (b.awaited query [b.next query] b.inFlight).step timeout .dequeue =
      (b.awaited query [] (b.inFlight ++ [b.next query]), [.sent (b.next query).frame]) :=
    step_dequeue h.running rfl
  have hroom : b.queue.length < capacity := by
    rw [hempty]
    decide
  rw [h.run_enqueue hroom, hempty, List.nil_append, run_cons hdequeue]
  rfl

theorem NumberedBelow.step_expire (h : b.NumberedBelow b.nextId) (query : AccountQuery)
    (queue inFlight : List BridgeCall) :
    (b.awaited query queue inFlight).step timeout (.expire b.nextId) =
      (b.passed queue inFlight, [.answered b.nextId (.error (.timeout timeout))]) := by
  have hmail : (b.awaited query queue inFlight).findMail b.nextId = none := by
    rw [findMail, awaited, find?_of_below h.mail]
    rfl
  rw [Bridge.step_expire (b := b.awaited query queue inFlight)
    (findCall_next h.waiting query) hmail]
  simp only [leave, awaited, filter_next h.waiting, h.filter_pending, filter_of_below h.blocked,
    filter_of_below h.mail, passed]

/-- An answer in time is taken, and the time limit passes without effect. -/
theorem NumberedBelow.run_answer (h : b.NumberedBelow b.nextId) (query : AccountQuery)
    (queue : List BridgeCall) (result : Except TransportFault Frame) :
    (b.awaited query queue (b.inFlight ++ [b.next query])).run timeout
        [.reply b.nextId result, .receive b.nextId, .expire b.nextId] =
      (b.passed queue b.inFlight, [.answered b.nextId (answerOf result)]) := by
  let informed : Bridge :=
    { b.passed queue b.inFlight with
      waiting := b.waiting ++ [b.next query]
      mail := b.mail ++ [(b.nextId, answerOf result)] }
  have hreply : (b.awaited query queue (b.inFlight ++ [b.next query])).step timeout
      (.reply b.nextId result) = (informed, []) := by
    rw [step_reply (b := b.awaited query queue (b.inFlight ++ [b.next query]))
      (findCall_next h.inFlight query) (List.mem_append_right _ List.mem_cons_self)]
    simp only [awaited, land, filter_next h.inFlight, h.filter_pending, informed, passed]
  have hmail : informed.findMail b.nextId = some (answerOf result) := by
    rw [findMail, find?_concat (f := Prod.fst) (a := (b.nextId, answerOf result)) h.mail]
    rfl
  have htaken : (b.mail ++ [(b.nextId, answerOf result)]).filter (·.1 ≠ b.nextId) = b.mail :=
    filter_concat (f := Prod.fst) (a := (b.nextId, answerOf result)) h.mail
  have hreceive : informed.step timeout (.receive b.nextId) =
      (b.passed queue b.inFlight, [.answered b.nextId (answerOf result)]) := by
    rw [step_receive (b := informed) (findCall_next h.waiting query) hmail]
    simp only [leave, informed, filter_next h.waiting, htaken, filter_of_below h.blocked,
      filter_of_below (f := fun id => id) h.pending, passed]
  have hgone : findCall (b.passed queue b.inFlight).waiting b.nextId = none :=
    find?_of_below h.waiting
  rw [run_cons hreply, run_cons hreceive, run_cons (step_of_gone hgone).2]
  rfl

theorem NumberedBelow.run_late (h : b.NumberedBelow b.nextId) (query : AccountQuery)
    (queue : List BridgeCall) (result : Except TransportFault Frame) :
    (b.awaited query queue (b.inFlight ++ [b.next query])).run timeout
        [.expire b.nextId, .reply b.nextId result, .receive b.nextId] =
      (b.passed queue b.inFlight, [.answered b.nextId (.error (.timeout timeout))]) := by
  have hunwanted : b.nextId ∉ (b.passed queue (b.inFlight ++ [b.next query])).pending :=
    fun hpending => UInt64.lt_irrefl _ (h.pending _ hpending)
  have hreply : (b.passed queue (b.inFlight ++ [b.next query])).step timeout
      (.reply b.nextId result) = (b.passed queue b.inFlight, []) := by
    rw [step, reply_of_unwanted hunwanted]
    simp only [land, passed, filter_next h.inFlight]
  have hgone : findCall (b.passed queue b.inFlight).waiting b.nextId = none :=
    find?_of_below h.waiting
  rw [run_cons (h.step_expire ..), run_cons hreply, run_cons (step_of_gone hgone).1]
  rfl

def told (node : NodeBehaviour) (timeout : Nat) (query : AccountQuery) : AccountAnswer :=
  if (node query).delay < timeout then answerOf (node query).result
    else .error (.timeout timeout)

/-- What happens to a caller once its request was sent, in its order. -/
theorem events_momentsOf (node : NodeBehaviour) (timeout : Nat) (id : UInt64)
    (query : AccountQuery) :
    ((momentsOf node timeout id query).mergeSort Moment.le).flatMap (·.events) =
      if (node query).delay <
        timeout then [.reply id (node query).result, .receive id, .expire id]
      else [.expire id, .reply id (node query).result, .receive id] := by
  rw [momentsOf]
  split
  · have hle : Moment.le ⟨timeout, 1, [.expire id]⟩
        ⟨(node query).delay, 2, [.reply id (node query).result, .receive id]⟩ = false := by
      grind [Moment.le]
    simp [List.mergeSort, hle]
  · have hle : Moment.le ⟨timeout, 1, [.expire id]⟩
        ⟨(node query).delay, 2, [.reply id (node query).result, .receive id]⟩ = true := by
      grind [Moment.le]
    simp [List.mergeSort, hle]

theorem Serves.run_moments (h : b.Serves) (node : NodeBehaviour) (timeout : Nat)
    (query : AccountQuery) (queue : List BridgeCall) :
    (b.awaited query queue (b.inFlight ++ [b.next query])).run timeout
        (((momentsOf node timeout b.nextId query).mergeSort Moment.le).flatMap (·.events)) =
      (b.passed queue b.inFlight, [.answered b.nextId (told node timeout query)]) := by
  rw [events_momentsOf, told]
  split
  · exact h.below.run_answer ..
  · exact h.below.run_late ..

theorem Serves.run_ask (h : b.Serves) (hempty : b.queue = []) (node : NodeBehaviour)
    (timeout : Nat) (query : AccountQuery) :
    b.run timeout (.register query :: .enqueue b.nextId :: .dequeue ::
        ((momentsOf node timeout b.nextId query).mergeSort Moment.le).flatMap (·.events)) =
      (b.passed [] b.inFlight,
        [.sent (b.next query).frame, .answered b.nextId (told node timeout query)]) := by
  rw [h.run_send hempty, h.run_moments]

theorem Serves.numbering (h : b.Serves) (query : AccountQuery) :
    b.numbering [query] = [(b.nextId, query)] := by
  rw [Bridge.numbering, if_neg (Bool.eq_false_iff.1 h.up)]
  simp

theorem Serves.run_schedule (h : b.Serves) (node : NodeBehaviour) (timeout : Nat)
    (query : AccountQuery) :
    b.run timeout (schedule node timeout none b [query]) =
      (b.passed [] (b.inFlight ++ b.queue),
        (b.queue ++ [b.next query]).map (fun call => .sent call.frame) ++
          [.answered b.nextId (told node timeout query)]) := by
  have hevents : schedule node timeout none b [query] = b.clearing ++
      .register query :: .enqueue b.nextId :: .dequeue ::
        ((momentsOf node timeout b.nextId query).mergeSort Moment.le).flatMap (·.events) := by
    simp [schedule, h.numbering]
  -- what the queue held goes first, so the caller's own request is sent once it has entered
  have hask : b.flushed.run timeout (.register query :: .enqueue b.nextId :: .dequeue ::
        ((momentsOf node timeout b.nextId query).mergeSort Moment.le).flatMap (·.events)) =
      (b.passed [] (b.inFlight ++ b.queue),
        [.sent (b.next query).frame, .answered b.nextId (told node timeout query)]) :=
    h.flushed.run_ask rfl node timeout query
  rw [hevents, run_append, run_clearing timeout h.running, List.map_append, List.append_assoc]
  simp only [hask]
  rfl

/-- A lone caller comes and goes: some calls are sent, of those that the queue held and its own,
and the others are what the queue holds. -/
structure Visits (b : Bridge) (call : BridgeCall) (calls : List BridgeCall) (b' : Bridge) :
    Prop where
  state : b' = b.passed b'.queue b'.inFlight
  sent : calls ++ b'.queue = b.queue ++ [call]
  flown : ∀ other ∈ b'.inFlight, other ∈ b.inFlight ∨ other ∈ calls

theorem Serves.run_hurried (h : b.Serves) (query : AccountQuery) :
    ∃ calls b', b.Visits (b.next query) calls b' ∧ b.run 0 (b.hurried query) =
      (b', calls.map (fun call => .sent call.frame) ++
        [.answered b.nextId (.error (.timeout 0))]) := by
  rw [hurried]
  split
  · rename_i hroom
    have hvisits : b.Visits (b.next query) []
        (b.passed (b.queue ++ [b.next query]) b.inFlight) :=
      ⟨rfl, rfl, fun _ => .inl⟩
    refine ⟨_, _, hvisits, ?_⟩
    rw [List.nil_append, h.run_enqueue hroom, run_cons (h.below.step_expire ..)]
    rfl
  · -- without room the caller waits until the queue is empty: its time limit starts then
    have hlate : b.flushed.run 0 [.register query, .enqueue b.nextId, .expire b.nextId] =
        (b.passed [b.next query] (b.inFlight ++ b.queue),
          [.answered b.nextId (.error (.timeout 0))]) := by
      have hroom : b.flushed.queue.length < capacity := show 0 < capacity by decide
      exact (h.flushed.run_enqueue hroom query _).trans
        (run_cons (h.flushed.below.step_expire ..))
    have hvisits : b.Visits (b.next query) b.queue
        (b.passed [b.next query] (b.inFlight ++ b.queue)) :=
      ⟨rfl, rfl, fun _ => List.mem_append.1⟩
    refine ⟨_, _, hvisits, ?_⟩
    rw [run_append, run_clearing 0 h.running]
    simp only [hlate]

theorem answerIn_sent (calls : List BridgeCall) (shown : List Effect) (id : UInt64) :
    answerIn (calls.map (fun call => .sent call.frame) ++ shown) id = answerIn shown id := by
  induction calls with
  | nil => rfl
  | cons call calls ih => exact ih

theorem framesIn_sent (calls : List BridgeCall) :
    framesIn (calls.map fun call => .sent call.frame) = calls.map BridgeCall.frame := by
  induction calls with
  | nil => rfl
  | cons call calls ih => exact congrArg (call.frame :: ·) ih

theorem Serves.outcomes (h : b.Serves) (query : AccountQuery)
    (hrun : b.run timeout es =
      (b', calls.map (fun call => .sent call.frame) ++ [.answered b.nextId answer])) :
    b.outcomes timeout es [query] = ([answer], calls.map BridgeCall.frame, b') := by
  have hframes : framesIn (calls.map (fun call => .sent call.frame) ++
      [.answered b.nextId answer]) = calls.map BridgeCall.frame := by
    rw [framesIn_append, framesIn_sent]
    exact List.append_nil _
  have hanswer : answerIn [.answered b.nextId answer] b.nextId = some answer := by
    simp [answerIn]
  rw [Bridge.outcomes, hrun]
  simp only [h.up, h.numbering, hframes, List.map_cons, List.map_nil, answerIn_sent, hanswer,
    Option.getD_some, Bool.false_eq_true, if_false]

/-- A lone caller is told what comes of its exchange in time, and is gone. -/
theorem Serves.exchangeOne (h : b.Serves) (node : NodeBehaviour) (timeout : Nat)
    (query : AccountQuery) :
    ∃ calls b', b.exchangeOne node timeout query =
      (told node timeout query, calls.map BridgeCall.frame, b') ∧
      b.Visits (b.next query) calls b' ∧ (timeout ≠ 0 → b'.queue = []) := by
  by_cases hzero : timeout = 0
  · subst hzero
    obtain ⟨calls, b', hvisits, hrun⟩ := h.run_hurried query
    refine ⟨calls, b', ?_, hvisits, fun h0 => absurd rfl h0⟩
    rw [Bridge.exchangeOne, if_pos rfl, h.outcomes query hrun]
    rfl
  · have hvisits : b.Visits (b.next query) (b.queue ++ [b.next query])
        (b.passed [] (b.inFlight ++ b.queue)) := by
      refine ⟨rfl, List.append_nil _, fun other hother => ?_⟩
      exact (List.mem_append.1 hother).imp_right (List.mem_append_left _)
    refine ⟨_, _, ?_, hvisits, fun _ => rfl⟩
    rw [Bridge.exchangeOne, if_neg hzero, h.outcomes query (h.run_schedule node timeout query)]
    rfl

theorem NumberedBelow.mono {bound bound' : UInt64} (h : b.NumberedBelow bound)
    (hle : bound ≤ bound') :
    b.NumberedBelow bound' where
  blocked call hcall := UInt64.lt_of_lt_of_le (h.blocked call hcall) hle
  queue call hcall := UInt64.lt_of_lt_of_le (h.queue call hcall) hle
  inFlight call hcall := UInt64.lt_of_lt_of_le (h.inFlight call hcall) hle
  waiting call hcall := UInt64.lt_of_lt_of_le (h.waiting call hcall) hle
  pending id hid := UInt64.lt_of_lt_of_le (h.pending id hid) hle
  mail letter hletter := UInt64.lt_of_lt_of_le (h.mail letter hletter) hle

/-- The bridge still runs when a lone caller is gone, unless the numbers have run out. -/
theorem Serves.visits (h : b.Serves) (hvisits : b.Visits (b.next query) calls b')
    (hroom : b.nextId.toNat + 1 < UInt64.size) : b'.Serves := by
  have hnext : b.nextId < b.nextId + 1 := by
    rw [UInt64.lt_iff_toNat_lt, UInt64.toNat_add, UInt64.toNat_one, Nat.mod_eq_of_lt hroom]
    exact Nat.lt_succ_self _
  have hbelow := h.below.mono (UInt64.le_of_lt hnext)
  have hsent : ∀ call, call ∈ calls ∨ call ∈ b'.queue → call.id < b.nextId + 1 := by
    intro call hcall
    have hmem : call ∈ b.queue ++ [b.next query] := hvisits.sent ▸ List.mem_append.2 hcall
    obtain hmem | hmem := List.mem_append.1 hmem
    · exact hbelow.queue call hmem
    · rw [List.mem_singleton.1 hmem]
      exact hnext
  rw [hvisits.state]
  exact ⟨h.up, h.running, { hbelow with
    queue := fun call hcall => hsent call (.inr hcall)
    inFlight := fun call hcall =>
      (hvisits.flown call hcall).elim (hbelow.inFlight call) fun hcall =>
        hsent call (.inl hcall) }⟩

end Bridge

end RedactableLedger
