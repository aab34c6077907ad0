import RedactableLedger.Client
import RedactableLedger.Proofs.Canonical
import RedactableLedger.Proofs.Lifecycle.Deed
import RedactableLedger.Proofs.Network.Exchange
import RedactableLedger.Proofs.Outcome

namespace RedactableLedger

open RedactableLedger.Action

namespace Client

/-- What a client is told by its node, with a case for each thing that can come of an
exchange. -/
inductive Tells (c : Client) (query : AccountQuery) : AccountAnswer → Prop
  | late (hlate : c.timeout ≤ (c.node query).delay) :
      Tells c query (.error (.timeout c.timeout))
  | failed (htime : (c.node query).delay < c.timeout)
      (hresult : (c.node query).result = .error e) :
    Tells c query (.error (.transport e))
  | unexpected (htime : (c.node query).delay < c.timeout)
      (hresult : (c.node query).result = .ok ⟨type, payload⟩)
    (hresponse : type ≠ .accountResponse) (hnotFound : type ≠ .notFound) :
    Tells c query (.error (.transport (.unexpectedReply type.name)))
  | malformed (htime : (c.node query).delay < c.timeout)
    (hresult : (c.node query).result = .ok ⟨.accountResponse, payload⟩)
    (hread : (Layout.option Layout.account).read payload = .error e) :
    Tells c query (.error (.transport (.malformedAccount e)))
  | notFound (htime : (c.node query).delay < c.timeout)
      (hresult : (c.node query).result = .ok ⟨.notFound, payload⟩) :
    Tells c query (.ok none)
  | encoded (htime : (c.node query).delay < c.timeout)
    (hresult : (c.node query).result = .ok ⟨.accountResponse, payload⟩)
    (hread : (Layout.option Layout.account).read payload = .ok account) :
    Tells c query (.ok account)

/-- The state that is shown of an account: what the source of states says if there is one, and
else the numbers of the node without transactions. -/
def shownState (c : Client) (address : Address) (found : Account) : Outcome AccountState :=
  match c.source with
  | none => .ok ⟨found.balance, found.txCount, []⟩
  | some source => source address

/-- What was handed to the link, and then what is in the queue for it. -/
def issued (c : Client) : List Dispatch :=
  c.ledger.link.handed ++ c.bridge.queue.map fun call =>
    ⟨c.ledger.link.endpoint, call.frame, true⟩

/-- The request for an account, or for its root status, under a number. -/
def request (c : Client) (root : Bool) (address : Address) (id : UInt64) : Dispatch :=
  ⟨c.ledger.link.endpoint, AccountQuery.frame ⟨root, address.digest⟩ id, true⟩

variable {c c' : Client} {query : AccountQuery} {answer : AccountAnswer}

theorem tells_told (c : Client) (query : AccountQuery) :
    c.Tells query (Bridge.told c.node c.timeout query) := by
  rw [Bridge.told]
  split
  · rename_i htime
    cases hresult : (c.node query).result with
    | error e => exact .failed htime hresult
    | ok reply =>
      obtain ⟨type, payload⟩ := reply
      rw [answerOf, decodeReply]
      split
      · rename_i htype
        cases htype
        split
        · exact .encoded htime hresult ‹_›
        · exact .malformed htime hresult ‹_›
      · rename_i htype
        cases htype
        exact .notFound htime hresult
      · exact .unexpected htime hresult ‹_› ‹_›
  · exact .late (Nat.le_of_not_lt ‹_›)

theorem Tells.eq_told (h : c.Tells query answer) :
    answer = Bridge.told c.node c.timeout query := by
  rw [Bridge.told]
  cases h with
  | late hlate => rw [if_neg (Nat.not_lt.2 hlate)]
  | failed htime hresult => rw [if_pos htime, hresult, answerOf]
  | unexpected htime hresult hresponse hnotFound =>
    rw [if_pos htime, hresult, answerOf, decodeReply]
    split
    · contradiction
    · contradiction
    · rfl
  | malformed htime hresult hread =>
    simp only [if_pos htime, hresult, answerOf, decodeReply, hread]
  | notFound htime hresult => simp only [if_pos htime, hresult, answerOf, decodeReply]
  | encoded htime hresult hread =>
    simp only [if_pos htime, hresult, answerOf, decodeReply, hread]

theorem Tells.unique {other : AccountAnswer} (h : c.Tells query answer)
    (hother : c.Tells query other) :
    answer = other :=
  h.eq_told.trans hother.eq_told.symm

/-- Only the bridge of a client and what was handed to its link have changed. -/
def Spares (c c' : Client) : Prop :=
  ∃ bridge handed, c' =
    { c with bridge, ledger := { c.ledger with link := { c.ledger.link with handed } } }

/-- A client has asked its node something. -/
structure Asks (c : Client) (query : AccountQuery) (c' : Client) : Prop where
  spares : c.Spares c'
  issued : c'.issued = c.issued ++ [⟨c.ledger.link.endpoint, query.frame c.bridge.nextId, true⟩]
  emptied : c.timeout ≠ 0 → c'.bridge.queue = []
  nextId : c'.bridge.nextId = c.bridge.nextId + 1
  serves : c.bridge.nextId.toNat + 1 < UInt64.size → c'.bridge.Serves

theorem hand_all (frames : List Frame) (link : Link) :
    frames.foldl (fun link frame => link.hand frame true) link =
      { link with handed := link.handed ++ frames.map (⟨link.endpoint, ·, true⟩) } := by
  induction frames generalizing link with
  | nil => simp
  | cons frame frames ih =>
    rw [List.foldl_cons, ih]
    simp [Link.hand]

theorem asks_of_visits {calls : List BridgeCall} {bridge : Bridge} (h : c.bridge.Serves)
    (hvisits : c.bridge.Visits (c.bridge.next query) calls bridge)
    (hempty : c.timeout ≠ 0 → bridge.queue = []) :
    c.Asks query (c.afterSending (calls.map BridgeCall.frame) bridge) where
  spares := ⟨bridge, _, by rw [afterSending, hand_all]⟩
  issued := by
    have hsent :=
      congrArg (List.map fun call => (⟨c.ledger.link.endpoint, call.frame, true⟩ : Dispatch))
        hvisits.sent
    rw [List.map_append, List.map_append] at hsent
    rw [afterSending, hand_all, Client.issued, Client.issued, List.map_map, List.append_assoc,
      List.append_assoc]
    exact congrArg (c.ledger.link.handed ++ ·) hsent
  emptied := hempty
  nextId := congrArg Bridge.nextId hvisits.state
  serves := h.visits hvisits

theorem ask_of_serves (h : c.bridge.Serves) (query : AccountQuery) :
    ∃ answer c', (ask query).exec c = (answer, c') ∧ c.Tells query answer ∧
      c.Asks query c' := by
  obtain ⟨calls, bridge, hexchange, hvisits, hempty⟩ := h.exchangeOne c.node c.timeout query
  refine ⟨_, _, ?_, tells_told c query, asks_of_visits h hvisits hempty⟩
  rw [ask, exec_of, hexchange]

/-- How a look at the account of an address goes. -/
structure LooksUp (c : Client) (address : Address) (outcome : Outcome (Option AccountView))
    (c' : Client) : Prop where
  /-- Root status is asked for only if the node has told of an account. -/
  asked_once : (∀ found, ¬c.Tells ⟨false, address.digest⟩ (.ok (some found))) →
    c'.issued = c.issued ++ [c.request false address c.bridge.nextId]
  asked_twice : ∀ found, c.Tells ⟨false, address.digest⟩ (.ok (some found)) →
    c'.issued = c.issued ++
    [c.request false address c.bridge.nextId, c.request true address (c.bridge.nextId + 1)]
  emptied : c.timeout ≠ 0 → c'.bridge.queue = []
  none_iff : outcome = .ok none ↔ c.Tells ⟨false, address.digest⟩ (.ok none)
  some_iff : ∀ view, outcome = .ok (some view) ↔ ∃ found root state,
    c.Tells ⟨false, address.digest⟩ (.ok (some found)) ∧
    c.Tells ⟨true, address.digest⟩ (.ok root) ∧
      c.shownState address found = .ok state ∧
      view = ⟨⟨address, state.balance, state.txCount, true, root.isSome, found.isStaking⟩,
        state.recent⟩
  error_iff : ∀ e, outcome = .error e ↔ c.Tells ⟨false, address.digest⟩ (.error e) ∨
    ∃ found, c.Tells ⟨false, address.digest⟩ (.ok (some found)) ∧
      (c.Tells ⟨true, address.digest⟩ (.error e) ∨
        ∃ root, c.Tells ⟨true, address.digest⟩ (.ok root) ∧
          c.shownState address found = .error e)
  spares : c.Spares c'

theorem viewOf_eq (c : Client) (address : Address) (found : Account) (isRoot : Bool) :
    viewOf c.source address found isRoot = (c.shownState address found).map fun state =>
      ⟨⟨address, state.balance, state.txCount, true, isRoot, found.isStaking⟩,
        state.recent⟩ := by
  rw [shownState]
  cases c.source with
  | none => rfl
  | some source =>
    cases hstate : source address <;> simp only [viewOf, hstate] <;> rfl

theorem Tells.iff (h : c.Tells query answer) (other : AccountAnswer) :
    c.Tells query other ↔ answer = other := by
  constructor
  · exact h.unique
  · rintro rfl
    exact h

theorem Tells.of_spares (hspares : c.Spares c') (h : c'.Tells query answer) :
    c.Tells query answer := by
  obtain ⟨bridge, handed, rfl⟩ := hspares
  rw [h.eq_told]
  exact tells_told c query

theorem Spares.trans {c₁ c₂ : Client} (h : c.Spares c₁) (h' : c₁.Spares c₂) : c.Spares c₂ := by
  obtain ⟨_, _, rfl⟩ := h
  obtain ⟨bridge, handed, rfl⟩ := h'
  exact ⟨bridge, handed, rfl⟩

variable {c₁ c₂ : Client} {address : Address} {found : Account} {root : Option Account}
  {e : Fault}

theorem looksUp_of_unknown (hfirst : c.Tells ⟨false, address.digest⟩ (.ok none))
    (hasks : c.Asks ⟨false, address.digest⟩ c₁) : c.LooksUp address (.ok none) c₁ where
  asked_once _ := hasks.issued
  asked_twice found hfound := by simp [hfirst.iff] at hfound
  emptied := hasks.emptied
  none_iff := by simp [hfirst.iff]
  some_iff := by simp [hfirst.iff]
  error_iff := by simp [hfirst.iff]
  spares := hasks.spares

theorem looksUp_of_failed (hfirst : c.Tells ⟨false, address.digest⟩ (.error e))
    (hasks : c.Asks ⟨false, address.digest⟩ c₁) : c.LooksUp address (.error e) c₁ where
  asked_once _ := hasks.issued
  asked_twice found hfound := by simp [hfirst.iff] at hfound
  emptied := hasks.emptied
  none_iff := by simp [hfirst.iff]
  some_iff := by simp [hfirst.iff]
  error_iff := by simp [hfirst.iff]
  spares := hasks.spares

theorem Asks.twice (h : c.Asks ⟨false, address.digest⟩ c₁)
    (h' : c₁.Asks ⟨true, address.digest⟩ c₂) :
    c.Spares c₂ ∧ (c.timeout ≠ 0 → c₂.bridge.queue = []) ∧ c₂.issued = c.issued ++
      [c.request false address c.bridge.nextId,
        c.request true address (c.bridge.nextId + 1)] := by
  have hspares := h.spares.trans h'.spares
  have hissued := h'.issued
  rw [h.issued, h.nextId, List.append_assoc] at hissued
  obtain ⟨_, _, rfl⟩ := h.spares
  exact ⟨hspares, h'.emptied, hissued⟩

theorem looksUp_of_rootless (hfirst : c.Tells ⟨false, address.digest⟩ (.ok (some found)))
    (hsecond : c.Tells ⟨true, address.digest⟩ (.error e))
    (hasks : c.Asks ⟨false, address.digest⟩ c₁) (hasks' : c₁.Asks ⟨true, address.digest⟩ c₂) :
    c.LooksUp address (.error e) c₂ where
  asked_once hnone := absurd hfirst (hnone found)
  asked_twice _ _ := (hasks.twice hasks').2.2
  emptied := (hasks.twice hasks').2.1
  none_iff := by simp [hfirst.iff]
  some_iff := by simp [hsecond.iff]
  error_iff := by simp [hfirst.iff, hsecond.iff]
  spares := (hasks.twice hasks').1

theorem looksUp_of_found (hfirst : c.Tells ⟨false, address.digest⟩ (.ok (some found)))
    (hsecond : c.Tells ⟨true, address.digest⟩ (.ok root))
    (hasks : c.Asks ⟨false, address.digest⟩ c₁) (hasks' : c₁.Asks ⟨true, address.digest⟩ c₂) :
    c.LooksUp address ((viewOf c.source address found root.isSome).map some) c₂ where
  asked_once hnone := absurd hfirst (hnone found)
  asked_twice _ _ := (hasks.twice hasks').2.2
  emptied := (hasks.twice hasks').2.1
  none_iff := by
    rw [viewOf_eq]
    cases c.shownState address found <;> simp [hfirst.iff, Except.map]
  some_iff view := by
    rw [viewOf_eq]
    cases hstate : c.shownState address found <;>
      simp [hfirst.iff, hsecond.iff, hstate, Except.map, eq_comm]
  error_iff e := by
    rw [viewOf_eq]
    cases hstate : c.shownState address found <;>
      simp [hfirst.iff, hsecond.iff, hstate, Except.map]
  spares := (hasks.twice hasks').1

theorem looksUp_of_serves (h : c.bridge.Serves)
    (hroom : c.bridge.nextId.toNat + 1 < UInt64.size) (address : Address) :
    c.LooksUp address ((getAccount address).exec c).1 ((getAccount address).exec c).2 := by
  obtain ⟨first, c₁, hask, hfirst, hasks⟩ := ask_of_serves h ⟨false, address.digest⟩
  cases first with
  | error e =>
    have hexec : (getAccount address).exec c = (.error e, c₁) := exec_bind_error hask
    rw [hexec]
    exact looksUp_of_failed hfirst hasks
  | ok found =>
    cases found with
    | none =>
      have hexec : (getAccount address).exec c = (.ok none, c₁) := exec_bind_ok hask
      rw [hexec]
      exact looksUp_of_unknown hfirst hasks
    | some found =>
      obtain ⟨second, c₂, hask', hsecond, hasks'⟩ :=
        ask_of_serves (hasks.serves hroom) ⟨true, address.digest⟩
      -- the first exchange changed neither the node nor the time limit
      have hsecond := hsecond.of_spares hasks.spares
      cases second with
      | error e =>
        have hexec : (getAccount address).exec c = (.error e, c₂) :=
          (exec_bind_ok hask).trans (exec_bind_error hask')
        rw [hexec]
        exact looksUp_of_rootless hfirst hsecond hasks hasks'
      | ok root =>
        have hsource : c₂.source = c.source := by
          obtain ⟨_, _, rfl⟩ := hasks.spares.trans hasks'.spares
          rfl
        have hexec : (getAccount address).exec c =
            ((viewOf c₂.source address found root.isSome).map some, c₂) :=
          (exec_bind_ok hask).trans ((exec_bind_ok hask').trans (exec_map ..))
        rw [hexec, hsource]
        exact looksUp_of_found hfirst hsecond hasks hasks'

/-- Whatever the node does, a look at an account on a running bridge goes as its answers and the
source of states say. No number is given away a second time before 2^64 requests. -/
theorem lookup_decided (c : Client) (address : Address) (es : List Bridge.Event)
    (hbridge : c.bridge = .after c.timeout es)
    (hroom : (Bridge.callsOf c.timeout es).length + 2 < UInt64.size)
    (hup : c.bridge.isDown = false) :
    c.LooksUp address ((getAccount address).exec c).1 ((getAccount address).exec c).2 := by
  have hserves : c.bridge.Serves := by
    rw [hbridge] at hup ⊢
    exact Bridge.serves_of_run es (Nat.lt_of_succ_lt hroom) hup
  have hnumbered : (Bridge.after c.timeout es).Numbered (Bridge.callsOf c.timeout es) :=
    Bridge.numbered_of_run es (by omega)
  refine looksUp_of_serves hserves ?_ address
  rw [hbridge, hnumbered.toNat_next (by omega)]
  exact hroom

def contraryAccount : Account := ⟨⟨.ofNatLE 64 1⟩, 50, 2, false, false, true⟩

/-- A node that tells of the same account whatever it is asked, of root status a little
later. -/
def contraryNode : NodeBehaviour := fun query =>
  ⟨if query.root then 7 else 5,
    .ok ⟨.accountResponse, (Layout.option Layout.account).encode (some contraryAccount)⟩⟩

/-- A caller who has given up, and whose exchange is still under way. -/
def earlier : List Bridge.Event := [.register ⟨true, .zero 32⟩, .enqueue 1, .dequeue, .expire 1]

def contradicted : Client := ⟨.empty, .after 100 earlier, contraryNode, 100, none⟩

theorem tells_contradicted (query : AccountQuery) :
    contradicted.Tells query (.ok (some contraryAccount)) := by
  refine .encoded ?_ rfl (Layout.exact_account?.read_encode trivial)
  change (if query.root then 7 else 5) < 100
  split <;> decide

/-- A client shows the address that it asked for and calls the account a root account, whatever
the node says. -/
theorem lookup_contradicted :
    contradicted.bridge = .after contradicted.timeout earlier ∧
      (Bridge.callsOf contradicted.timeout earlier).length + 2 < UInt64.size ∧
        contradicted.bridge.isDown = false ∧
      ((getAccount .zero).exec contradicted).1 =
        .ok (some ⟨⟨.zero, 50, 2, true, true, true⟩, []⟩) ∧
      ((getAccount .zero).exec contradicted).2.issued =
        contradicted.issued ++
          [contradicted.request false .zero 2, contradicted.request true .zero 3] := by
  have hroom : (Bridge.callsOf contradicted.timeout earlier).length + 2 < UInt64.size := by
    decide
  have hlook := lookup_decided contradicted .zero earlier rfl hroom rfl
  have htold := tells_contradicted ⟨false, Address.zero.digest⟩
  exact ⟨rfl, hroom, rfl, (hlook.some_iff _).2 ⟨_, _, _, htold, tells_contradicted _, rfl, rfl⟩,
    hlook.asked_twice _ htold⟩

end Client

end RedactableLedger
