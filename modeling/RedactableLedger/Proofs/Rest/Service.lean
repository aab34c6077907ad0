import RedactableLedger.Proofs.Lifecycle.Submit
import RedactableLedger.Rest.Server

namespace RedactableLedger

open RedactableLedger.Action

/-- What a request that reached its route asks the ledger to carry out. -/
def HttpRequest.operationAt? (r : HttpRequest) : Route → Option Operation
  | .account => (r.record AccountBody.fields {}).toOption.map fun a => .prepare a.preparation
  | .funds =>
    (r.record TransferFunds.fields {}).toOption.map fun a =>
      .prepare (.transferFunds { a with fee := Fee.coerce a.fee })
  | .config =>
    (r.record ChangeConfig.fields {}).toOption.map fun a =>
      .prepare (.changeConfig { a with fee := Fee.coerce a.fee })
  | .stake =>
    (r.record SetStaking.fields {}).toOption.map fun a =>
      .prepare (.setStaking { a with fee := Fee.coerce a.fee })
  | .update =>
    (r.record UpdateData.fields {}).toOption.map fun a =>
      .prepare (.updateData { a with fee := Fee.coerce a.fee })
  | .delete =>
    (r.record DeleteData.fields {}).toOption.map fun a =>
      .prepare (.deleteData { a with fee := Fee.coerce a.fee })
  | .signature =>
    ((r.record SignatureBody.fields {}).toOption.bind (·.decode.toOption)).map
      fun (hash, primary, cosigner) =>
      .attachAndSubmit hash primary cosigner
  | .health | .metrics | .transaction _ | .accountView _ => none

/-- What a request asks the ledger to carry out, if it reaches a route that does. -/
def HttpRequest.operation? (r : HttpRequest) : Option Operation :=
  if r.method = "POST" then (Route.ofPath? (Route.pathOf r.target)).bind r.operationAt?
    else none

/-- What happens to a front end: something at its ledger, a request, or a change of the node or
of the files. -/
inductive Server.Event where
  | occurrence (o : Occurrence)
  | request (now : String) (r : HttpRequest)
  | node (behaviour : NodeBehaviour)
  | files (files : Files)

namespace Server

def ledger (s : Server) : Ledger := s.client.ledger

def store (s : Server) : Store := s.ledger.store

def broadcasts (s : Server) : List Dispatch := s.ledger.link.broadcasts

def withLedger (s : Server) (l : Ledger) : Server :=
  { s with client := { s.client with ledger := l } }

def after (s : Server) : Event → Server
  | .occurrence o => s.withLedger (s.ledger.after o)
  | .request now r => (handle now r s).2
  | .node behaviour => { s with client := { s.client with node := behaviour } }
  | .files files =>
    s.withLedger { s.ledger with workspace := { s.ledger.workspace with files } }

def afterAll (s : Server) (es : List Event) : Server := es.foldl after s

namespace Event

def operation? : Event → Option Operation
  | occurrence (.operation op) => some op
  | request _ r => r.operation?
  | _ => none

/-- The byte strings that are put into records at an event are short enough for their lengths to
be written. -/
def Fits (e : Event) : Prop := ∀ op ∈ e.operation?, op.Fits

end Event

end Server

/-- Nothing was put into the store, no hash was checked out and nothing was broadcast. -/
structure Ledger.Idles (l l' : Ledger) : Prop where
  store : l'.store = l.store
  locks : l'.locks = l.locks
  broadcasts : l'.link.broadcasts = l.link.broadcasts

variable {l l₁ l₂ : Ledger} {op : Operation}

theorem Ledger.Idles.refl (l : Ledger) : l.Idles l := ⟨rfl, rfl, rfl⟩

theorem Ledger.Idles.trans (h : l.Idles l₁) (h' : l₁.Idles l₂) : l.Idles l₂ :=
  ⟨h'.store.trans h.store, h'.locks.trans h.locks, h'.broadcasts.trans h.broadcasts⟩

namespace Client

theorem broadcasts_of_awaited (link : Link) (frames : List Frame) :
    (frames.foldl (fun link frame => link.hand frame true) link).broadcasts =
      link.broadcasts := by
  induction frames generalizing link with
  | nil => rfl
  | cons frame frames ih =>
    rw [List.foldl_cons, ih]
    exact (List.filter_append ..).trans (List.append_nil _)

theorem idles_afterSending (c : Client) (frames : List Frame) (bridge : Bridge) :
    c.ledger.Idles (c.afterSending frames bridge).ledger :=
  ⟨rfl, rfl, broadcasts_of_awaited c.ledger.link frames⟩

theorem idles_rest (c : Client) : c.ledger.Idles c.rest.ledger := idles_afterSending ..

theorem preserves_onLedger {P : Client → Prop} {a : Action Ledger α}
    (h : ∀ c : Client, Preserves (fun l => P { c with ledger := l }) a) :
    Preserves P (onLedger a) :=
  fun c hc => h c c.ledger hc

theorem preserves_getAccount {P : Client → Prop}
    (h : ∀ c frames bridge, P c → P (c.afterSending frames bridge)) (address : Address) :
    Preserves P (getAccount address) := by
  have hask : ∀ query, Preserves P (ask query) := fun query c hc => h c _ _ hc
  refine (hask _).bind fun found => ?_
  cases found with
  | none => exact .pure none
  | some account => exact (hask _).bind fun root => Preserves.map _ (.query _)

theorem idles_getAccount (l : Ledger) (address : Address) :
    Preserves (fun c => l.Idles c.ledger) (getAccount address) :=
  preserves_getAccount (fun c frames bridge h => h.trans (idles_afterSending c frames bridge))
    address

end Client

namespace Server

def follow (l : Ledger) : Option Operation → Ledger
  | some op => l.after (.operation op)
  | none => l

/-- What is computed carries out an operation, or none, with idling before and after it. -/
def CarriesOut (op? : Option Operation) (a : StateM Server α) : Prop :=
  ∀ s, ∃ l, s.ledger.Idles l ∧ (follow l op?).Idles (a s).2.ledger

variable {op? : Option Operation}

theorem CarriesOut.of_ledger {a : StateM Server α} (h : ∀ s, (a s).2.ledger = s.ledger) :
    CarriesOut none a := by
  intro s
  refine ⟨s.ledger, .refl _, ?_⟩
  rw [h]
  exact .refl _

theorem CarriesOut.pure (x : α) : CarriesOut none (pure x : StateM Server α) :=
  .of_ledger fun _ => rfl

theorem CarriesOut.count (f : Metrics → Metrics) :
    CarriesOut none (count f) := .of_ledger fun _ => rfl

theorem CarriesOut.after_idling {a : StateM Server α} {f : α → StateM Server β}
    (ha : CarriesOut none a) (hf : ∀ x, CarriesOut op? (f x)) : CarriesOut op? (a >>= f) := by
  intro s
  obtain ⟨l, hl, ha⟩ := ha s
  obtain ⟨l', hl', hf⟩ := hf (a s).1 (a s).2
  exact ⟨l', (hl.trans ha).trans hl', hf⟩

theorem CarriesOut.before_idling {a : StateM Server α} {f : α → StateM Server β}
    (ha : CarriesOut op? a) (hf : ∀ x, CarriesOut none (f x)) : CarriesOut op? (a >>= f) := by
  intro s
  obtain ⟨l, hl, ha⟩ := ha s
  obtain ⟨l', hl', hf⟩ := hf (a s).1 (a s).2
  exact ⟨l, hl, (ha.trans hl').trans hf⟩

theorem CarriesOut.ite {p : Prop} [Decidable p] {a b : StateM Server α} (ha : CarriesOut op? a)
    (hb : CarriesOut op? b) : CarriesOut op? (if p then a else b) := by
  split
  · exact ha
  · exact hb

theorem carriesOut_attempt {a : Action Ledger α}
    (h : ∀ l, l.after (.operation op) = (a.exec l).2) :
    CarriesOut (some op) (attempt (Client.onLedger a)) := by
  intro s
  refine ⟨s.ledger, .refl _, ?_⟩
  rw [follow, h]
  exact .refl _

theorem carriesOut_idle {a : Action Client α}
    (h : ∀ l : Ledger, Preserves (fun c => l.Idles c.ledger) a) :
    CarriesOut none (attempt a) :=
  fun s => ⟨s.ledger, .refl _, h s.ledger s.client (.refl _)⟩

theorem carriesOut_run (request : Preparation) :
    CarriesOut (some (.prepare request)) (attempt (Client.onLedger request.run)) := by
  refine carriesOut_attempt fun l => ?_
  rw [Ledger.after, Operation.run, exec_map]

theorem carriesOut_preparedResponse (p : Prepared) : CarriesOut none (preparedResponse p) :=
  (CarriesOut.count _).after_idling fun _ => .pure _

theorem carriesOut_answer {a : Action Client α} {f : α → StateM Server HttpResponse}
    (ha : CarriesOut op? (attempt a)) (hf : ∀ x, CarriesOut none (f x)) :
    CarriesOut op? (answer a f) := by
  refine ha.before_idling fun r => ?_
  cases r with
  | ok x => exact hf x
  | error e => exact .pure _

theorem carriesOut_prepare (request : Preparation) :
    CarriesOut (some (.prepare request)) (prepare request) :=
  carriesOut_answer (carriesOut_run request) carriesOut_preparedResponse

theorem carriesOut_prepareRedaction (request : Preparation) :
    CarriesOut (some (.prepare request)) (prepareRedaction request) := by
  have hrest : CarriesOut none
      (modify fun s : Server => { s with client := s.client.rest }) := by
    intro s
    exact ⟨s.ledger, .refl _, Client.idles_rest s.client⟩
  refine hrest.after_idling fun _ => (carriesOut_run request).before_idling fun r => ?_
  refine (CarriesOut.count _).after_idling fun _ => ?_
  cases r with
  | ok p => exact (CarriesOut.count _).after_idling fun _ => carriesOut_preparedResponse p
  | error e => exact .pure _

theorem carriesOut_acceptSignature (a : SignatureBody) :
    CarriesOut (a.decode.toOption.map fun (hash, primary, cosigner) =>
      .attachAndSubmit hash primary cosigner)
      (acceptSignature a) := by
  rw [acceptSignature]
  cases a.decode with
  | error e => exact .pure _
  | ok decoded =>
    obtain ⟨hash, primary, cosigner⟩ := decoded
    have hattempt : CarriesOut (some (.attachAndSubmit hash primary cosigner))
        (attempt (Client.onLedger (Ledger.attachAndSubmit hash primary cosigner))) := by
      refine carriesOut_attempt fun l => ?_
      rw [Ledger.after, Operation.run, exec_map]
    refine hattempt.before_idling fun r => ?_
    cases r with
    | ok tx => exact (CarriesOut.count _).after_idling fun _ => .pure _
    | error e =>
      exact .ite ((CarriesOut.count _).after_idling fun _ => .pure _) (.pure _)

theorem carriesOut_showTransaction (name : String) :
    CarriesOut none (showTransaction name) := by
  refine carriesOut_answer (carriesOut_idle fun l => Client.preserves_onLedger fun c => ?_)
    fun found => .pure _
  exact (Preserves.lift _).bind fun hash => (Preserves.query _).bind fun tx => .pure _

theorem carriesOut_showAccount (name : String) : CarriesOut none (showAccount name) := by
  refine carriesOut_answer (carriesOut_idle fun l => ?_) fun found => ?_
  · exact (Preserves.lift _).bind fun address => Client.idles_getAccount l address
  · cases found <;> exact .pure _

theorem carriesOut_withRecord (r : HttpRequest) (fields : List (Json.Field α)) (defaults : α)
    {f : α → StateM Server HttpResponse} {op? : α → Option Operation}
    (hf : ∀ a, CarriesOut (op? a) (f a)) :
    CarriesOut ((r.record fields defaults).toOption.bind op?)
      (withRecord r fields defaults f) := by
  rw [withRecord]
  cases r.record fields defaults with
  | ok a => exact hf a
  | error e => exact .pure _

theorem carriesOut_withName (label name : String) {f : String → StateM Server HttpResponse}
    (hf : ∀ text, CarriesOut none (f text)) : CarriesOut none (withName label name f) := by
  rw [withName]
  cases Route.decodeName name with
  | none => exact .pure _
  | some text => exact hf text

theorem carriesOut_recordPrepare (r : HttpRequest) (fields : List (Json.Field α)) (defaults : α)
    (request : α → Preparation) :
    CarriesOut ((r.record fields defaults).toOption.map fun a => .prepare (request a))
      (withRecord r fields defaults fun a => prepare (request a)) := by
  rw [Option.map_eq_bind]
  exact carriesOut_withRecord r fields defaults fun a => carriesOut_prepare _

theorem carriesOut_recordRedaction (r : HttpRequest) (fields : List (Json.Field α))
    (defaults : α) (request : α → Preparation) :
    CarriesOut ((r.record fields defaults).toOption.map fun a => .prepare (request a))
      (withRecord r fields defaults fun a => prepareRedaction (request a)) := by
  rw [Option.map_eq_bind]
  exact carriesOut_withRecord r fields defaults fun a => carriesOut_prepareRedaction _

/-- A request that reached its route carries out what it asks for. -/
theorem carriesOut_serve (now : String) (r : HttpRequest) (route : Route) :
    CarriesOut (r.operationAt? route) (serve now r route) := by
  cases route with
  | health => exact .of_ledger fun s => rfl
  | metrics => exact .of_ledger fun s => rfl
  | account => exact carriesOut_recordPrepare r _ _ _
  | funds => exact carriesOut_recordPrepare r _ _ _
  | config => exact carriesOut_recordPrepare r _ _ _
  | stake => exact carriesOut_recordPrepare r _ _ _
  | update => exact carriesOut_recordRedaction r _ _ _
  | delete => exact carriesOut_recordRedaction r _ _ _
  | signature =>
    have h := carriesOut_withRecord r SignatureBody.fields {} carriesOut_acceptSignature
    rw [HttpRequest.operationAt?, Option.map_bind]
    exact h
  | transaction name => exact carriesOut_withName "hash" name carriesOut_showTransaction
  | accountView name => exact carriesOut_withName "address" name carriesOut_showAccount

theorem operationAt?_of_get (r : HttpRequest) {route : Route} (h : route.method = .get) :
    r.operationAt? route = none := by
  cases route with
  | health | metrics | transaction name | accountView name => rfl
  | _ => cases h

theorem carriesOut_handle (now : String) (r : HttpRequest) :
    CarriesOut r.operation? (handle now r) := by
  rw [handle, HttpRequest.operation?]
  by_cases hpost : r.method = "POST"
  · rw [if_pos hpost, if_neg (by rw [hpost]; decide)]
    cases Route.ofPath? (Route.pathOf r.target) with
    | none => exact .pure _
    | some route =>
      -- a route that only shows something refuses the method and asks for no operation
      cases hroute : route.method with
      | get =>
        rw [Option.bind_some, operationAt?_of_get r hroute]
        simp only [hroute, hpost]
        exact .pure _
      | post =>
        simp only [hroute, hpost]
        exact carriesOut_serve now r route
  · rw [if_neg hpost]
    refine .ite (.pure _) ?_
    cases Route.ofPath? (Route.pathOf r.target) with
    | none => exact .pure _
    | some route =>
      dsimp only
      split
      · rename_i hroute _
        rw [← operationAt?_of_get r hroute]
        exact carriesOut_serve now r route
      · rename_i hroute _
        rw [← operationAt?_of_get r hroute]
        exact (carriesOut_serve now r route).before_idling fun response => .pure _
      · rename_i hmethod
        exact absurd hmethod hpost
      · exact .pure _

/-- At an event the ledger is led to where the operation of the event leads it, up to idling. -/
theorem ledger_of_after (s : Server) (e : Event) :
    ∃ l, s.ledger.Idles l ∧ (follow l e.operation?).Idles (s.after e).ledger := by
  cases e with
  | occurrence o =>
    refine ⟨s.ledger, .refl _, ?_⟩
    cases o with
    | operation op => exact .refl _
    | supply draws => exact ⟨rfl, rfl, rfl⟩
    | linkFault fault => exact ⟨rfl, rfl, rfl⟩
  | request now r => exact carriesOut_handle now r s
  | node behaviour => exact ⟨s.ledger, .refl _, rfl, rfl, rfl⟩
  | files files => exact ⟨s.ledger, .refl _, rfl, rfl, rfl⟩

end Server

end RedactableLedger
