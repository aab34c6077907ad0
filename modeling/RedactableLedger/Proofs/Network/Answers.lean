import RedactableLedger.Network.Exchange
import RedactableLedger.Proofs.Network.Correlation

namespace RedactableLedger

theorem fails_decodeReply (reply : Frame) : (decodeReply reply).Fails Fault.IsNoRefusal := by
  rw [decodeReply]
  split
  · split
    · exact .ok _
    · exact .error (by rintro ⟨⟩)
  · exact .ok _
  · exact .error (by rintro ⟨⟩)

theorem fails_answerOf (result : Except TransportFault Frame) :
    (answerOf result).Fails Fault.IsNoRefusal := by
  cases result with
  | ok reply => exact fails_decodeReply reply
  | error e => exact .error (by rintro ⟨⟩)

namespace Bridge

variable {timeout : Nat} {b b' : Bridge} {e : Event} {shown : List Effect}

def RefusesNobody (b : Bridge) : Prop := ∀ letter ∈ b.mail, letter.2.Fails Fault.IsNoRefusal

def NoneRefused (shown : List Effect) : Prop :=
  ∀ id answer, Effect.answered id answer ∈ shown → answer.Fails Fault.IsNoRefusal

theorem noneRefused_nil : NoneRefused [] := fun _ _ h => absurd h List.not_mem_nil

theorem NoneRefused.append {more : List Effect} (h : NoneRefused shown)
    (hmore : NoneRefused more) :
    NoneRefused (shown ++ more) := by
  intro id answer hmem
  rcases List.mem_append.1 hmem with hmem | hmem
  · exact h id answer hmem
  · exact hmore id answer hmem

theorem NoneRefused.answerIn (h : NoneRefused shown) (id : UInt64) :
    ((answerIn shown id).getD (.error .cancelled)).Fails Fault.IsNoRefusal := by
  cases hfind : Bridge.answerIn shown id with
  | none => exact .error (by rintro ⟨⟩)
  | some answer =>
    obtain ⟨effect, hmem, heffect⟩ := List.exists_of_findSome?_eq_some hfind
    cases effect with
    | answered i found =>
      dsimp only at heffect
      split at heffect
      · cases heffect
        exact h i answer hmem
      · cases heffect
    | _ => cases heffect

theorem Concludes.fails {call : BridgeCall} {answer : AccountAnswer}
    (h : Concludes timeout b call e answer) (hb : b.RefusesNobody) :
    answer.Fails Fault.IsNoRefusal := by
  cases h with
  | closed => exact .error (by rintro ⟨⟩)
  | received _ hmail => exact hb _ hmail
  | expired => exact .error (by rintro ⟨⟩)
  | cancelled => exact .error (by rintro ⟨⟩)

theorem Fires.refusesNobody (h : Fires timeout b e b' shown) (hb : b.RefusesNobody) :
    b'.RefusesNobody ∧ NoneRefused shown := by
  cases h with
  | deliver _ _ =>
    refine ⟨?_, noneRefused_nil⟩
    intro letter hmem
    rcases List.mem_append.1 hmem with hmem | hmem
    · exact hb letter hmem
    · rw [List.mem_singleton.1 hmem]
      exact fails_answerOf _
  | finish hends =>
    refine ⟨fun letter hmem => hb letter (List.mem_of_mem_filter hmem), ?_⟩
    intro id found hmem
    cases List.mem_singleton.1 hmem
    exact hends.fails hb
  | idle | register | enqueue | drop | shutdown | stop => exact ⟨hb, noneRefused_nil⟩
  | refuse | dequeue =>
    refine ⟨hb, ?_⟩
    intro id found hmem
    cases List.mem_singleton.1 hmem

theorem refusesNobody_of_run (h : b.RefusesNobody) (timeout : Nat) (es : List Event) :
    (b.run timeout es).1.RefusesNobody ∧ NoneRefused (b.run timeout es).2 := by
  induction es generalizing b with
  | nil => exact ⟨h, noneRefused_nil⟩
  | cons e rest ih =>
    obtain ⟨hstep, hshown⟩ := (fires_step timeout b e).refusesNobody h
    obtain ⟨hrest, hmore⟩ := ih hstep
    exact ⟨hrest, hshown.append hmore⟩

theorem refusesNobody_after (timeout : Nat) (es : List Event) :
    (after timeout es).RefusesNobody := by
  have hfresh : fresh.RefusesNobody := by
    intro letter hmem
    cases hmem
  exact (refusesNobody_of_run hfresh timeout es).1

theorem refusesNobody_of_exchangeOne (h : b.RefusesNobody) (node : NodeBehaviour)
    (timeout : Nat) (query : AccountQuery) :
    (b.exchangeOne node timeout query).2.2.RefusesNobody ∧
      (b.exchangeOne node timeout query).1.Fails Fault.IsNoRefusal := by
  rw [exchangeOne]
  generalize (if timeout = 0 then b.hurried query else schedule node timeout none b [query]) =
    events
  obtain ⟨hafter, hshown⟩ := refusesNobody_of_run h timeout events
  refine ⟨hafter, ?_⟩
  have hall : ∀ answer ∈ (b.outcomes timeout events [query]).1,
      answer.Fails Fault.IsNoRefusal := by
    intro answer hmem
    simp only [outcomes] at hmem
    split at hmem
    · obtain ⟨_, _, rfl⟩ := List.mem_map.1 hmem
      exact .error (by rintro ⟨⟩)
    · obtain ⟨⟨id, _⟩, _, rfl⟩ := List.mem_map.1 hmem
      exact hshown.answerIn id
  cases hanswers : (b.outcomes timeout events [query]).1 with
  | nil =>
    simp only [hanswers]
    exact .error (by rintro ⟨⟩)
  | cons answer rest =>
    simp only [hanswers]
    exact hall answer (by rw [hanswers]; exact .head _)

end Bridge

end RedactableLedger
