import Mathlib.Algebra.Ring.Nat
import RedactableLedger.Proofs.Lifecycle.Announce
import RedactableLedger.Proofs.Lifecycle.Atomic
import RedactableLedger.Proofs.Rest.Visit

namespace RedactableLedger

open RedactableLedger.Action

theorem txHashOfHex_toHex (hash : TxHash) : txHashOfHex hash.toHex = .ok hash := by
  rw [txHashOfHex, decodeField_toHex]
  rfl

theorem Preparation.Drafts.kind_eq_update {request : Preparation} {draft : Draft}
    (h : request.Drafts draft) :
    decide (draft.tx.kind = .update) = request.update?.isSome := by
  cases h with
  | update hrequest =>
    rw [hrequest]
    rfl
  | _ => rfl

namespace Ledger

variable {l l' : Ledger} {p : Prepared} {request : Preparation} {hash : TxHash}
  {primary : Signature} {cosigner : Option Signature}

/-- What was prepared is staged, with its kind, and the last record put. -/
theorem kindOf_of_run (h : request.run.exec l = (.ok p, l')) :
    l'.store.kindOf p.hash = .ok (some p.tx.kind) := by
  obtain ⟨draft, _, _, htx, heffect⟩ := staged_of_run h
  generalize l'.store = s' at heffect ⊢
  cases heffect with
  | staged => rw [Store.kindOf_put_self, htx]
  | announced => rw [Store.kindOf_put_self, htx]

theorem kind_of_run (h : request.run.exec l = (.ok p, l')) :
    decide (p.tx.kind = .update) = request.update?.isSome := by
  obtain ⟨draft, _, hdrafts, htx, _⟩ := staged_of_run h
  rw [← htx]
  exact hdrafts.kind_eq_update

/-- An update that succeeds replaces the record of its target, and puts its announcement behind
it. -/
theorem replaces_of_run {o : Outcome Prepared} (h : request.run.exec l = (o, l'))
    (hupdate : request.update?.isSome = true) (hok : o.isOk = true) :
    ∃ (r : Redaction) (cs : CheckString) (s : Store) (hash : TxHash) (tx : Transaction),
      r.Replaces l.store cs s ∧ l'.store = s.put hash tx := by
  cases o with
  | error e => cases hok
  | ok p =>
    obtain ⟨draft, _, hdrafts, _, heffect⟩ := staged_of_run h
    generalize l'.store = s' at heffect ⊢
    cases heffect with
    | staged _ _ hnone =>
      obtain ⟨hplain, _⟩ | ⟨_, _, _, _, _, _, _, _, hsome⟩ := hdrafts.redaction
      · rw [hplain] at hupdate
        cases hupdate
      · rw [hnone] at hsome
        cases hsome
    | announced _ _ _ _ hreplaces => exact ⟨_, _, _, _, _, hreplaces, rfl⟩

inductive Submitted (l l' : Ledger) : Outcome Transaction → Prop
  | unsent (hkind : e.kind ≠ .transport) (hlink : l'.link.broadcasts = l.link.broadcasts) :
      Submitted l l' (.error e)
  | refused (hfault : l.link.fault = some fault)
      (hlink : l'.link.broadcasts = l.link.broadcasts ++ [d]) :
      Submitted l l' (.error (.transport fault))
  | accepted (hfault : l.link.fault = none)
      (hlink : l'.link.broadcasts = l.link.broadcasts ++ [d]) :
      Submitted l l' (.ok tx)

theorem submitted_of_run {o : Outcome Transaction}
    (h : (attachAndSubmit hash primary cosigner).exec l = (o, l')) :
    Submitted l l' o := by
  have hlink : ((attach hash primary cosigner).exec l).2.link = l.link := link_of_amend ..
  obtain ⟨e, hattach, rfl⟩ | ⟨record, l₁, hattach, rfl, rfl⟩ := attach_of_attachAndSubmit h
  · rw [hattach] at hlink
    refine .unsent ?_ (by rw [hlink])
    intro hkind
    cases e with
    | transport fault => exact not_transport_of_attach fault (by rw [hattach])
    | _ => cases hkind
  · rw [hattach] at hlink
    have hhand : (l₁.handing record).link.broadcasts =
        l.link.broadcasts ++ [⟨l₁.link.endpoint, record.frame, false⟩] := by
      rw [handing, Link.broadcasts_hand, hlink]
    cases hfault : l.link.fault with
    | none =>
      rw [Link.report, hlink, hfault]
      exact .accepted hfault hhand
    | some fault =>
      rw [Link.report, hlink, hfault]
      exact .refused hfault hhand

end Ledger

namespace Metrics

def preparedKind? (o : Outcome Prepared) : Option TxKind := o.toOption.map (·.tx.kind)

variable (m : Metrics) (redacts : Bool) (o : Outcome Prepared)

theorem prepared_afterPreparation (kind : TxKind) :
    (m.afterPreparation redacts o).prepared kind =
      m.prepared kind + (decide (preparedKind? o = some kind)).toNat := by
  have hcount : ∀ (m : Metrics) (p : Prepared), (m.countPrepared p.tx.kind).prepared kind =
      m.prepared kind + (decide (preparedKind? (.ok p) = some kind)).toNat := by
    intro m p
    by_cases h : kind = p.tx.kind
    · subst h
      simp [countPrepared, preparedKind?, Except.toOption]
    · simp [countPrepared, preparedKind?, Except.toOption, h, Ne.symm h]
  cases o with
  | error e => cases redacts <;> rfl
  | ok p =>
    cases redacts with
    | false => exact hcount m p
    | true => exact hcount m.countTimed.countRedacted p

theorem redacted_afterPreparation :
    (m.afterPreparation redacts o).redacted = m.redacted + (redacts && o.isOk).toNat := by
  cases redacts <;> cases o <;> rfl

theorem submitted_afterPreparation :
    (m.afterPreparation redacts o).submitted = m.submitted := by
  cases redacts <;> cases o <;> rfl

theorem failures_afterPreparation :
    (m.afterPreparation redacts o).submissionFailures = m.submissionFailures := by
  cases redacts <;> cases o <;> rfl

theorem timed_afterPreparation :
    (m.afterPreparation redacts o).timedRedactions = m.timedRedactions + redacts.toNat := by
  cases redacts <;> cases o <;> rfl

theorem prepared_afterSubmission (o : Outcome Transaction) :
    (m.afterSubmission o).prepared = m.prepared := by
  cases o with
  | ok tx => rfl
  | error e => exact apply_ite prepared .. |>.trans (ite_self _)

theorem redacted_afterSubmission (o : Outcome Transaction) :
    (m.afterSubmission o).redacted = m.redacted := by
  cases o with
  | ok tx => rfl
  | error e => exact apply_ite redacted .. |>.trans (ite_self _)

theorem timed_afterSubmission (o : Outcome Transaction) :
    (m.afterSubmission o).timedRedactions = m.timedRedactions := by
  cases o with
  | ok tx => rfl
  | error e => exact apply_ite timedRedactions .. |>.trans (ite_self _)

end Metrics

/-- A request, with the front end that it reached and the time that it reached it at. -/
structure Visit where
  server : Server
  now : String
  request : HttpRequest

namespace Visit

def response (v : Visit) : HttpResponse := (Server.handle v.now v.request v.server).1

def after (v : Visit) : Server := (Server.handle v.now v.request v.server).2

def prepares (v : Visit) : Bool := v.request.route?.any Route.prepares

def hash? (v : Visit) : Option TxHash :=
  (v.response.content.find? (·.name = "Transaction")).bind fun value =>
    (txHashOfHex value.detail).toOption

/-- The kind of the record that a route that prepares transactions answered with. -/
def preparedKind? (v : Visit) : Option TxKind :=
  if v.prepares ∧ v.response.status = 200 then
    v.hash?.bind fun hash => (v.after.store.kindOf hash).toOption.join
  else none

/-- Whether a request got as far as the redaction of a record in the store. -/
def redacts (v : Visit) : Bool :=
  match v.request.operation? with
  | some (.prepare request) =>
    request.update?.any fun a =>
      ((Ledger.redactTarget a).exec (v.server.begun request).ledger).1.isOk
  | _ => false

/-- A record was replaced by a redacted one in the store, and a record was put behind it. -/
def Writes (v : Visit) : Prop :=
  ∃ (r : Redaction) (cs : CheckString) (s : Store) (hash : TxHash) (tx : Transaction),
    r.Replaces v.server.store cs s ∧ v.after.store = s.put hash tx

def sent (v : Visit) : List Dispatch := v.server.sent (.request v.now v.request)

def accepted (v : Visit) : List Dispatch :=
  if v.server.ledger.link.fault = none then v.sent else []

def refused (v : Visit) : List Dispatch :=
  if v.server.ledger.link.fault = none then [] else v.sent

def isBadGateway (v : Visit) : Bool :=
  v.request.route? = some .signature ∧ v.response.status = 502

/-- Whether a request asks for a redaction, with a body that is a record. -/
def asksRedaction (v : Visit) : Bool :=
  v.request.method = "POST" && match v.request.route? with
    | some .update => (v.request.record UpdateData.fields {}).isOk
    | some .delete => (v.request.record DeleteData.fields {}).isOk
    | _ => false

/-- What one request adds to the counts is what happened at it. -/
structure Counted (v : Visit) : Prop where
  prepared : ∀ kind, v.after.metrics.prepared kind =
    v.server.metrics.prepared kind + (decide (v.preparedKind? = some kind)).toNat
  update : (decide (v.preparedKind? = some .update)) = v.redacts
  redacted : v.after.metrics.redacted = v.server.metrics.redacted + v.redacts.toNat
  writes : v.redacts = true → v.Writes
  unwritten : v.asksRedaction = true → v.redacts = false → v.after.store = v.server.store
  submitted : v.after.metrics.submitted = v.server.metrics.submitted + v.accepted.length
  failures : v.after.metrics.submissionFailures =
    v.server.metrics.submissionFailures + v.refused.length
  badGateway : v.refused.length = v.isBadGateway.toNat
  timed : v.after.metrics.timedRedactions =
    v.server.metrics.timedRedactions + v.asksRedaction.toNat
  store : v.prepares = true → v.response.status ≠ 200 → v.after.store = v.server.store

variable {v : Visit}

theorem serves (v : Visit) : v.server.Serves v.request v.response v.after :=
  Server.answers_handle v.now v.request v.server

theorem sent_of_broadcasts {ds : List Dispatch}
    (h : v.after.broadcasts = v.server.broadcasts ++ ds) : v.sent = ds :=
  Server.sent_of_append h

theorem sent_of_unsent (h : v.after.broadcasts = v.server.broadcasts) : v.sent = [] := by
  apply sent_of_broadcasts
  rw [h, List.append_nil]

theorem method_of_prepares {route : Route} (h : route.prepares = true) :
    route.method = .post := by
  cases route <;> first | rfl | cases h

theorem prepares_of_operationAt? {r : HttpRequest} {route : Route} {request : Preparation}
    (h : r.operationAt? route = some (.prepare request)) : route.prepares = true := by
  cases route with
  | signature =>
    obtain ⟨_, _, h⟩ := Option.map_eq_some_iff.1 h
    cases h
  | health | metrics | transaction name | accountView name => cases h
  | _ => rfl

theorem hash?_of_content (h : v.response.content = []) : v.hash? = none := by
  rw [hash?, h]
  rfl

theorem preparedKind?_of_not_prepares (h : v.prepares = false) : v.preparedKind? = none := by
  rw [preparedKind?, h]
  exact if_neg fun hprepares => Bool.false_ne_true hprepares.1

theorem preparedKind?_of_content (h : v.response.content = []) : v.preparedKind? = none := by
  rw [preparedKind?, hash?_of_content h]
  split <;> rfl

theorem isBadGateway_of_prepares (h : v.prepares = true) : v.isBadGateway = false := by
  apply decide_eq_false
  rintro ⟨hroute, _⟩
  rw [prepares, hroute] at h
  cases h

def redactsBy : Option Operation → Bool
  | some (.prepare request) => request.update?.isSome
  | _ => false

theorem redactsBy_record {α : Type} (record : Except BodyFault α) (request : α → Preparation)
    (redacts : Bool) (h : ∀ a, (request a).update?.isSome = redacts) :
    redactsBy (record.toOption.map fun a => .prepare (request a)) =
      (record.isOk && redacts) := by
  cases record with
  | error e => rfl
  | ok a => exact h a

theorem asksRedaction_eq (v : Visit) : v.asksRedaction = redactsBy v.request.operation? := by
  rw [asksRedaction, HttpRequest.operation?]
  by_cases hmethod : v.request.method = "POST"
  · rw [decide_eq_true hmethod, Bool.true_and, if_pos hmethod]
    change _ = redactsBy (v.request.route?.bind v.request.operationAt?)
    cases v.request.route? with
    | none => rfl
    | some route =>
      rw [Option.bind_some]
      cases route with
      | health | metrics | transaction name | accountView name => rfl
      | update => exact ((redactsBy_record _ _ true fun _ => rfl).trans (Bool.and_true _)).symm
      | delete => exact ((redactsBy_record _ _ true fun _ => rfl).trans (Bool.and_true _)).symm
      | account =>
        refine ((redactsBy_record _ _ false fun a => ?_).trans (Bool.and_false _)).symm
        rw [AccountBody.preparation]
        split <;> rfl
      | funds => exact ((redactsBy_record _ _ false fun _ => rfl).trans (Bool.and_false _)).symm
      | config =>
        exact ((redactsBy_record _ _ false fun _ => rfl).trans (Bool.and_false _)).symm
      | stake => exact ((redactsBy_record _ _ false fun _ => rfl).trans (Bool.and_false _)).symm
      | signature =>
        rw [HttpRequest.operationAt?]
        cases (v.request.record SignatureBody.fields {}).toOption.bind (·.decode.toOption) <;>
          rfl
  · rw [decide_eq_false hmethod, Bool.false_and, if_neg hmethod]
    rfl

theorem counted_idly (hop : v.request.operation? = none) (hrests : v.server.Rests v.after)
    (hanswer : ∀ route, v.request.route? = some route → route.method = .post →
      v.response.content = [] ∧ v.response.status ≠ 502) : v.Counted := by
  have hkind : v.preparedKind? = none := by
    cases hprepares : v.prepares with
    | false => exact preparedKind?_of_not_prepares hprepares
    | true =>
      obtain ⟨route, hroute, hpost⟩ := (Option.any_eq_true _ _).1 hprepares
      exact preparedKind?_of_content (hanswer route hroute (method_of_prepares hpost)).1
  have hredacts : v.redacts = false := by
    rw [redacts, hop]
  have hsent : v.sent = [] := sent_of_unsent hrests.idles.broadcasts
  have hgateway : v.isBadGateway = false := by
    apply decide_eq_false
    rintro ⟨hroute, hstatus⟩
    exact (hanswer _ hroute rfl).2 hstatus
  have hasks : v.asksRedaction = false := by
    rw [asksRedaction_eq, hop]
    rfl
  constructor
  · intro kind
    rw [hrests.metrics, hkind]
    rfl
  · rw [hkind, hredacts]
    rfl
  · rw [hrests.metrics, hredacts]
    rfl
  · intro h
    rw [hredacts] at h
    cases h
  · intro _ _
    exact hrests.idles.store
  · rw [hrests.metrics, accepted, hsent, ite_self]
    rfl
  · rw [hrests.metrics, refused, hsent, ite_self]
    rfl
  · rw [refused, hsent, ite_self, hgateway]
    rfl
  · rw [hrests.metrics, hasks]
    rfl
  · intro _ _
    exact hrests.idles.store

section Preparing

variable {request : Preparation} {o : Outcome Prepared} {l l' : Ledger}

theorem preparedKind?_of_run (hprepares : v.prepares = true)
    (hrun : request.run.exec l = (o, l')) (hresponse : v.response = Server.preparationAnswer o)
    (hledger : v.after.ledger = l') :
    v.preparedKind? = Metrics.preparedKind? o := by
  cases o with
  | error e =>
    rw [preparedKind?_of_content (by rw [hresponse]; rfl)]
    rfl
  | ok p =>
    -- the answer names the hash that the record was put under last, so its kind is the one in
    -- the index
    have hhash : v.hash? = some p.hash := by
      rw [hash?, hresponse]
      simp [Server.preparationAnswer, HttpResponse.json, HttpResponse.content,
        txHashOfHex_toHex, Except.toOption]
    have hstatus : v.response.status = 200 := by
      rw [hresponse]
      rfl
    rw [preparedKind?, if_pos ⟨hprepares, hstatus⟩, hhash, Option.bind_some, Server.store,
      hledger, Ledger.kindOf_of_run hrun]
    rfl

theorem update_of_run (hrun : request.run.exec l = (o, l')) :
    decide (Metrics.preparedKind? o = some .update) = (request.update?.isSome && o.isOk) := by
  cases o with
  | error e => exact (Bool.and_false _).symm
  | ok p =>
    rw [← Ledger.kind_of_run hrun]
    exact (decide_eq_decide.2 Option.some_inj).trans (Bool.and_true _).symm

/-- A request redacts if a redaction was asked for and the preparation that it is a part of
succeeds. -/
theorem redacts_of_run (hop : v.request.operation? = some (.prepare request))
    (hrun : request.run.exec (v.server.begun request).ledger = (o, l)) :
    v.redacts = (request.update?.isSome && o.isOk) := by
  rw [redacts, hop]
  dsimp only
  cases hupdate : request.update? with
  | none => rfl
  | some a =>
    have hok := Ledger.isOk_of_update hupdate (v.server.begun request).ledger
    rw [hrun] at hok
    exact hok.symm

theorem sent_of_preparing (hrun : request.run.exec (v.server.begun request).ledger = (o, l))
    (hledger : v.after.ledger = l) : v.sent = [] := by
  have hlink := Ledger.link_of_prepare request (v.server.begun request).ledger
  rw [hrun] at hlink
  apply sent_of_unsent
  rw [Server.broadcasts, hledger, hlink]
  exact (Server.rests_begun v.server request).idles.broadcasts

theorem store_of_unprepared (hrun : request.run.exec (v.server.begun request).ledger = (o, l))
    (hledger : v.after.ledger = l) (hfails : o.isOk = false) :
    v.after.store = v.server.store := by
  cases o with
  | ok p => cases hfails
  | error e =>
    rw [Server.store, Server.store, hledger, Ledger.store_of_prepare_error hrun]
    exact (Server.rests_begun v.server request).idles.store

theorem writes_of_run (hrun : request.run.exec (v.server.begun request).ledger = (o, l))
    (hledger : v.after.ledger = l) (hupdate : request.update?.isSome = true)
    (hok : o.isOk = true) : v.Writes := by
  obtain ⟨r, cs, s, hash, tx, hreplaces, hput⟩ := Ledger.replaces_of_run hrun hupdate hok
  have hbefore : (v.server.begun request).ledger.store = v.server.store :=
    (Server.rests_begun v.server request).idles.store
  rw [hbefore] at hreplaces
  exact ⟨r, cs, s, hash, tx, hreplaces, by rw [Server.store, hledger, hput]⟩

theorem counted_preparing {route : Route}
    (hmethod : v.request.method = "POST") (hroute : v.request.route? = some route)
    (hop : v.request.operationAt? route = some (.prepare request))
    (hrun : request.run.exec (v.server.begun request).ledger = (o, l))
    (hresponse : v.response = Server.preparationAnswer o)
    (hafter : v.after =
      (v.server.begun request).counted l
        (v.server.metrics.afterPreparation request.update?.isSome o)) : v.Counted := by
  have hop? : v.request.operation? = some (.prepare request) :=
    (Server.operation?_eq hmethod hroute).trans hop
  have hmetrics : v.after.metrics =
      v.server.metrics.afterPreparation request.update?.isSome o := by
    rw [hafter]
    rfl
  have hledger : v.after.ledger = l := by
    rw [hafter]
    rfl
  have hprepares : v.prepares = true := by
    rw [prepares, hroute]
    exact prepares_of_operationAt? hop
  have hkind : v.preparedKind? = Metrics.preparedKind? o :=
    preparedKind?_of_run hprepares hrun hresponse hledger
  have hredacts : v.redacts = (request.update?.isSome && o.isOk) := redacts_of_run hop? hrun
  have hsent : v.sent = [] := sent_of_preparing hrun hledger
  have hasks : v.asksRedaction = request.update?.isSome := by
    rw [asksRedaction_eq, hop?]
    rfl
  constructor
  · intro kind
    rw [hmetrics, Metrics.prepared_afterPreparation, hkind]
  · rw [hkind, hredacts]
    exact update_of_run hrun
  · rw [hmetrics, Metrics.redacted_afterPreparation, hredacts]
  · intro h
    rw [hredacts, Bool.and_eq_true] at h
    exact writes_of_run hrun hledger h.1 h.2
  · intro h hno
    rw [hasks] at h
    rw [hredacts, h, Bool.true_and] at hno
    exact store_of_unprepared hrun hledger hno
  · rw [hmetrics, Metrics.submitted_afterPreparation, accepted, hsent, ite_self]
    rfl
  · rw [hmetrics, Metrics.failures_afterPreparation, refused, hsent, ite_self]
    rfl
  · rw [refused, hsent, ite_self, isBadGateway_of_prepares hprepares]
    rfl
  · rw [hmetrics, Metrics.timed_afterPreparation, hasks]
  · intro _ hstatus
    refine store_of_unprepared hrun hledger ?_
    cases o with
    | ok p => exact absurd (by rw [hresponse]; rfl) hstatus
    | error e => rfl

end Preparing

section Submitting

variable {hash : TxHash} {primary : Signature} {cosigner : Option Signature}
  {o : Outcome Transaction} {l : Ledger}

/-- A submission counts what it handed to the link, and is answered with a bad gateway if the
link refused it. -/
theorem link_of_run (hroute : v.request.route? = some .signature)
    (hrun : (Ledger.attachAndSubmit hash primary cosigner).exec v.server.ledger = (o, l))
    (hresponse : v.response = Server.submissionAnswer hash o)
    (hafter : v.after = v.server.counted l (v.server.metrics.afterSubmission o)) :
    v.after.metrics.submitted = v.server.metrics.submitted + v.accepted.length ∧
      v.after.metrics.submissionFailures =
        v.server.metrics.submissionFailures + v.refused.length ∧
        v.refused.length = v.isBadGateway.toNat := by
  have hmetrics : v.after.metrics = v.server.metrics.afterSubmission o := by
    rw [hafter]
    rfl
  have hbroadcasts : ∀ ds, l.link.broadcasts = v.server.ledger.link.broadcasts ++ ds →
      v.sent = ds := by
    intro ds h
    apply sent_of_broadcasts
    rw [hafter]
    exact h
  have hgateway : v.isBadGateway = decide ((Server.submissionAnswer hash o).status = 502) := by
    rw [isBadGateway, hroute, hresponse]
    exact decide_eq_decide.2 ⟨fun h => h.2, fun h => ⟨rfl, h⟩⟩
  rw [hmetrics, accepted, refused, hgateway]
  cases Ledger.submitted_of_run hrun with
  | @unsent e hkind hlink =>
    have hstatus : (Server.submissionAnswer hash (.error e)).status ≠ 502 := by
      intro h
      obtain ⟨fault, rfl⟩ := Fault.status_eq_badGateway.1 h
      exact hkind rfl
    rw [hbroadcasts [] (by rw [hlink, List.append_nil]), ite_self, Metrics.afterSubmission,
      if_neg hkind]
    exact ⟨rfl, rfl, by rw [decide_eq_false hstatus]; rfl⟩
  | refused hfault hlink =>
    rw [hbroadcasts _ hlink, hfault]
    exact ⟨rfl, rfl, rfl⟩
  | accepted hfault hlink =>
    rw [hbroadcasts _ hlink, hfault]
    exact ⟨rfl, rfl, rfl⟩

theorem counted_submitting (hmethod : v.request.method = "POST")
    (hroute : v.request.route? = some .signature)
    (hop : v.request.operationAt? .signature = some (.attachAndSubmit hash primary cosigner))
    (hrun : (Ledger.attachAndSubmit hash primary cosigner).exec v.server.ledger = (o, l))
    (hresponse : v.response = Server.submissionAnswer hash o)
    (hafter : v.after = v.server.counted l (v.server.metrics.afterSubmission o)) :
    v.Counted := by
  have hop? : v.request.operation? = some (.attachAndSubmit hash primary cosigner) :=
    (Server.operation?_eq hmethod hroute).trans hop
  have hmetrics : v.after.metrics = v.server.metrics.afterSubmission o := by
    rw [hafter]
    rfl
  have hprepares : v.prepares = false := by
    rw [prepares, hroute]
    rfl
  have hkind : v.preparedKind? = none := preparedKind?_of_not_prepares hprepares
  have hredacts : v.redacts = false := by
    rw [redacts, hop?]
  have hasks : v.asksRedaction = false := by
    rw [asksRedaction_eq, hop?]
    rfl
  obtain ⟨hsubmitted, hfailures, hgateway⟩ := link_of_run hroute hrun hresponse hafter
  constructor
  · intro kind
    rw [hmetrics, Metrics.prepared_afterSubmission, hkind]
    rfl
  · rw [hkind, hredacts]
    rfl
  · rw [hmetrics, Metrics.redacted_afterSubmission, hredacts]
    rfl
  · intro h
    rw [hredacts] at h
    cases h
  · intro h
    rw [hasks] at h
    cases h
  · exact hsubmitted
  · exact hfailures
  · exact hgateway
  · rw [hmetrics, Metrics.timed_afterSubmission, hasks]
    rfl
  · intro h
    rw [hprepares] at h
    cases h

end Submitting

theorem counted (v : Visit) : v.Counted := by
  cases v.serves with
  | idly hop hrests hanswer => exact counted_idly hop hrests hanswer
  | preparing hmethod hroute hop hrun hresponse hafter =>
    exact counted_preparing hmethod hroute hop hrun hresponse hafter
  | submitting hmethod hroute hop hrun hresponse hafter =>
    exact counted_submitting hmethod hroute hop hrun hresponse hafter

end Visit

namespace Server

variable {s : Server} {e : Event}

/-- The request of an event that is one, with the front end that it reached. -/
def visit? (s : Server) : Event → Option Visit
  | .request now r => some ⟨s, now, r⟩
  | _ => none

def visits (s : Server) (es : List Event) : List Visit :=
  (s.trace es).filterMap fun (t, e) => t.visit? e

theorem visits_cons (s : Server) (e : Event) (es : List Event) :
    s.visits (e :: es) = (s.visit? e).toList ++ (s.after e).visits es := by
  rw [visits, trace, List.filterMap_cons]
  dsimp only
  cases s.visit? e <;> rfl

theorem count_of_run (count : Metrics → Nat) (adds : Visit → Nat)
    (hstep : ∀ v : Visit, count v.after.metrics = count v.server.metrics + adds v) (s : Server)
    (es : List Event) :
    count (s.afterAll es).metrics = count s.metrics + ((s.visits es).map adds).sum := by
  induction es generalizing s with
  | nil => rfl
  | cons e es ih =>
    rw [afterAll_cons, ih, visits_cons, List.map_append, List.sum_append, ← Nat.add_assoc]
    congr 1
    cases e with
    | request now r => exact hstep ⟨s, now, r⟩
    | _ => rfl

theorem sum_map_toNat (p : Visit → Bool) (vs : List Visit) :
    (vs.map fun v => (p v).toNat).sum = vs.countP p := by
  induction vs with
  | nil => rfl
  | cons v vs ih =>
    rw [List.map_cons, List.sum_cons, ih, List.countP_cons, Nat.add_comm]
    cases p v <;> rfl

/-- The counts of a front end tell what happened at requests to it. -/
structure Accounts (m : Metrics) (vs : List Visit) : Prop where
  prepared : ∀ kind, m.prepared kind = vs.countP (·.preparedKind? = some kind)
  announced : m.redacted = m.prepared .update
  redacted : m.redacted = vs.countP (·.redacts)
  submitted : m.submitted = (vs.flatMap (·.accepted)).length
  refused : m.submissionFailures = (vs.flatMap (·.refused)).length
  badGateway : m.submissionFailures = vs.countP (·.isBadGateway)
  timed : m.timedRedactions = vs.countP (·.asksRedaction)

/-- What every request adds to a count if something happens at it is the number of the requests
of a run at which it happens. -/
theorem countP_of_run (count : Metrics → Nat) (p : Visit → Bool)
    (hstep : ∀ v : Visit, count v.after.metrics = count v.server.metrics + (p v).toNat)
    (hzero : count .zero = 0) (c : Client) (es : List Event) :
    count ((Server.mk c .zero).afterAll es).metrics =
      ((Server.mk c .zero).visits es).countP p := by
  rw [count_of_run count _ hstep, sum_map_toNat, hzero, Nat.zero_add]

theorem accounts (c : Client) (es : List Event) :
    Accounts ((Server.mk c .zero).afterAll es).metrics ((Server.mk c .zero).visits es) := by
  have hprepared : ∀ kind, ((Server.mk c .zero).afterAll es).metrics.prepared kind =
      ((Server.mk c .zero).visits es).countP (·.preparedKind? = some kind) := fun kind =>
    countP_of_run (·.prepared kind) _ (fun v => v.counted.prepared kind) rfl c es
  have hredacted : ((Server.mk c .zero).afterAll es).metrics.redacted =
      ((Server.mk c .zero).visits es).countP (·.redacts) :=
    countP_of_run (·.redacted) _ (fun v => v.counted.redacted) rfl c es
  constructor
  · exact hprepared
  · rw [hprepared, hredacted]
    congr 1
    funext v
    exact v.counted.update.symm
  · exact hredacted
  · rw [count_of_run (·.submitted) _ fun v => v.counted.submitted, List.length_flatMap]
    exact Nat.zero_add _
  · rw [count_of_run (·.submissionFailures) _ fun v => v.counted.failures, List.length_flatMap]
    exact Nat.zero_add _
  · refine countP_of_run (·.submissionFailures) _ (fun v => ?_) rfl c es
    rw [← v.counted.badGateway, v.counted.failures]
  · exact countP_of_run (·.timedRedactions) _ (fun v => v.counted.timed) rfl c es

end Server

end RedactableLedger
