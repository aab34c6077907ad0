import RedactableLedger.Proofs.Rest.Broadcast

namespace RedactableLedger

open RedactableLedger.Action

def HttpResponse.content (r : HttpResponse) : List NamedValue :=
  match r.body with
  | .envelope e => e.content
  | .text _ => []

def HttpRequest.route? (r : HttpRequest) : Option Route := Route.ofPath? (Route.pathOf r.target)

def Route.prepares : Route → Bool
  | account | funds | config | stake | update | delete => true
  | _ => false

/-- The counts after a preparation, which is timed if it redacts another transaction. -/
def Metrics.afterPreparation (m : Metrics) (redacts : Bool) (o : Outcome Prepared) : Metrics :=
  match redacts, o with
  | false, .error _ => m
  | false, .ok p => m.countPrepared p.tx.kind
  | true, .error _ => m.countTimed
  | true, .ok p => m.countTimed.countRedacted.countPrepared p.tx.kind

def Metrics.afterSubmission (m : Metrics) : Outcome Transaction → Metrics
  | .ok _ => m.countSubmitted
  | .error e => if e.kind = .transport then m.countSubmissionFailure else m

theorem Fault.status_eq_badGateway {e : Fault} :
    e.kind.status = 502 ↔ ∃ fault, e = .transport fault := by
  cases e with
  | transport fault => exact ⟨fun _ => ⟨fault, rfl⟩, fun _ => rfl⟩
  | _ =>
    constructor
    · intro h
      cases h
    · rintro ⟨_, h⟩
      cases h

namespace Server

def preparationAnswer : Outcome Prepared → HttpResponse
  | .ok p =>
    .json 200 (p.tx.kind.name ++ " successfully created. Sign the provided hash.")
      [⟨"Transaction", p.hash.toHex⟩]
  | .error e => .fault e

def submissionAnswer (hash : TxHash) : Outcome Transaction → HttpResponse
  | .ok _ => .json 200 "Tx successfully sent to network." [⟨"Transaction", hash.toHex⟩]
  | .error e => .fault e

/-- The front end after its ledger was worked on and its counts were changed. -/
def counted (s : Server) (l : Ledger) (m : Metrics) : Server :=
  ⟨{ s.client with ledger := l }, m⟩

/-- Nothing was counted, drawn, written, checked out or broadcast. -/
structure Rests (s s' : Server) : Prop where
  metrics : s'.metrics = s.metrics
  workspace : s'.ledger.workspace = s.ledger.workspace
  idles : s.ledger.Idles s'.ledger

theorem Rests.refl (s : Server) : s.Rests s := ⟨rfl, rfl, .refl _⟩

theorem rests_afterSending (s : Server) {c : Client} (frames : List Frame) (bridge : Bridge)
    (h : s.Rests ⟨c, s.metrics⟩) : s.Rests ⟨c.afterSending frames bridge, s.metrics⟩ :=
  ⟨rfl, h.workspace, h.idles.trans (Client.idles_afterSending c frames bridge)⟩

/-- The front end when a preparation begins: before a redaction, what was left in the queue of
the client is sent. -/
def begun (s : Server) (request : Preparation) : Server :=
  if request.update?.isSome then { s with client := s.client.rest } else s

theorem rests_begun (s : Server) (request : Preparation) : s.Rests (s.begun request) := by
  rw [begun]
  split
  · exact ⟨rfl, rfl, Client.idles_rest s.client⟩
  · exact .refl s

inductive Serves (s : Server) (r : HttpRequest) (response : HttpResponse) (s' : Server) : Prop
  | idly (hop : r.operation? = none) (hrests : s.Rests s')
      (hanswer : ∀ route, r.route? = some route → route.method = .post →
        response.content = [] ∧ response.status ≠ 502)
  | preparing {route : Route} {request : Preparation} {o : Outcome Prepared} {l : Ledger}
      (hmethod : r.method = "POST") (hroute : r.route? = some route)
      (hop : r.operationAt? route = some (.prepare request))
      (hrun : request.run.exec (s.begun request).ledger = (o, l))
      (hresponse : response = preparationAnswer o)
      (hafter : s' = (s.begun request).counted l
        (s.metrics.afterPreparation request.update?.isSome o))
  | submitting {hash : TxHash} {primary : Signature} {cosigner : Option Signature}
      {o : Outcome Transaction}
      {l : Ledger} (hmethod : r.method = "POST") (hroute : r.route? = some .signature)
      (hop : r.operationAt? .signature = some (.attachAndSubmit hash primary cosigner))
      (hrun : (Ledger.attachAndSubmit hash primary cosigner).exec s.ledger = (o, l))
      (hresponse : response = submissionAnswer hash o)
      (hafter : s' = s.counted l (s.metrics.afterSubmission o))

variable {s : Server} {r : HttpRequest} {route : Route} {now : String}

theorem operation?_eq (hmethod : r.method = "POST") (hroute : r.route? = some route) :
    r.operation? = r.operationAt? route := by
  rw [HttpRequest.operation?, if_pos hmethod]
  exact congrArg (·.bind r.operationAt?) hroute

theorem bind_apply (a : StateM Server α) (f : α → StateM Server β) (s : Server) :
    (a >>= f) s = f (a s).1 (a s).2 := rfl

theorem attempt_apply (a : Action Client α) (s : Server) :
    attempt a s = ((a.exec s.client).1, ⟨(a.exec s.client).2, s.metrics⟩) := rfl

theorem attempt_onLedger (a : Action Ledger α) (s : Server) :
    attempt (Client.onLedger a) s =
      ((a.exec s.ledger).1, s.counted (a.exec s.ledger).2 s.metrics) := rfl

theorem prepare_apply (request : Preparation) (s : Server) :
    prepare request s = (preparationAnswer (request.run.exec s.ledger).1,
      s.counted (request.run.exec s.ledger).2
        (s.metrics.afterPreparation false (request.run.exec s.ledger).1)) := by
  rw [prepare, answer, bind_apply, attempt_onLedger]
  dsimp only
  cases (request.run.exec s.ledger).1 <;> rfl

theorem prepareRedaction_apply {request : Preparation} (h : request.update?.isSome = true)
    (s : Server) :
    prepareRedaction request s =
      (preparationAnswer (request.run.exec (s.begun request).ledger).1,
        (s.begun request).counted (request.run.exec (s.begun request).ledger).2
          (s.metrics.afterPreparation true (request.run.exec (s.begun request).ledger).1)) := by
  rw [begun, if_pos h, prepareRedaction, bind_apply]
  change (attempt (Client.onLedger request.run) >>= _) { s with client := s.client.rest } = _
  rw [bind_apply, attempt_onLedger]
  dsimp only
  cases (request.run.exec _).1 <;> rfl

variable {hash : TxHash} {primary : Signature} {cosigner : Option Signature}

theorem acceptSignature_apply {a : SignatureBody} (h : a.decode = .ok (hash, primary, cosigner))
    (s : Server) :
    acceptSignature a s =
      (submissionAnswer hash ((Ledger.attachAndSubmit hash primary cosigner).exec s.ledger).1,
        s.counted ((Ledger.attachAndSubmit hash primary cosigner).exec s.ledger).2
          (s.metrics.afterSubmission
            ((Ledger.attachAndSubmit hash primary cosigner).exec s.ledger).1)) := by
  rw [acceptSignature, h]
  dsimp only
  rw [bind_apply, attempt_onLedger]
  dsimp only
  cases ((Ledger.attachAndSubmit hash primary cosigner).exec s.ledger).1 with
  | ok tx => rfl
  | error e =>
    dsimp only
    rw [Metrics.afterSubmission]
    split <;> rfl

theorem acceptSignature_error {a : SignatureBody} {e : Fault} (h : a.decode = .error e)
    (s : Server) :
    acceptSignature a s = (.fault e, s) := by
  rw [acceptSignature, h]
  rfl

theorem rests_answer {a : Action Client α} {f : α → StateM Server HttpResponse}
    (ha : Preserves (fun c => s.Rests ⟨c, s.metrics⟩) a) (hf : ∀ x t, (f x t).2 = t) :
    s.Rests (answer a f s).2 := by
  have hrests : s.Rests ⟨(a.exec s.client).2, s.metrics⟩ := ha s.client (.refl s)
  rw [answer, bind_apply, attempt_apply]
  dsimp only
  cases (a.exec s.client).1 with
  | ok x =>
    dsimp only
    rw [hf]
    exact hrests
  | error e => exact hrests

theorem rests_showTransaction (name : String) (s : Server) :
    s.Rests (showTransaction name s).2 := by
  apply rests_answer
  · refine Client.preserves_onLedger fun c => ?_
    exact (Preserves.lift _).bind fun hash => (Preserves.query _).bind fun tx => .pure _
  · intro found t
    rfl

theorem rests_showAccount (name : String) (s : Server) : s.Rests (showAccount name s).2 := by
  apply rests_answer
  · refine (Preserves.lift _).bind fun address => ?_
    exact Client.preserves_getAccount
      (fun c frames bridge => rests_afterSending s frames bridge) address
  · intro found t
    cases found <;> rfl

theorem rests_withName (label name : String) {f : String → StateM Server HttpResponse}
    (hf : ∀ text, s.Rests (f text s).2) : s.Rests (withName label name f s).2 := by
  rw [withName]
  cases Route.decodeName name with
  | none => exact .refl s
  | some text => exact hf text

theorem rests_serve_of_get (now : String) (r : HttpRequest) (h : route.method = .get)
    (s : Server) :
    s.Rests (serve now r route s).2 := by
  cases route with
  | health => exact .refl s
  | metrics => exact .refl s
  | transaction name => exact rests_withName _ _ fun text => rests_showTransaction text s
  | accountView name => exact rests_withName _ _ fun text => rests_showAccount text s
  | _ => cases h

def Answers (r : HttpRequest) (a : StateM Server HttpResponse) : Prop :=
  ∀ s : Server, s.Serves r (a s).1 (a s).2

theorem answers_withRecord (hmethod : r.method = "POST") (hroute : r.route? = some route)
    (fields : List (Json.Field α)) (defaults : α) {f : α → StateM Server HttpResponse}
    {op? : α → Option Operation}
    (hop : r.operationAt? route = (r.record fields defaults).toOption.bind op?)
    (hf : ∀ a, r.operationAt? route = op? a → Answers r (f a)) :
    Answers r (withRecord r fields defaults f) := by
  rw [withRecord]
  cases hrecord : r.record fields defaults with
  | ok a =>
    rw [hrecord] at hop
    exact hf a hop
  | error e =>
    intro s
    rw [hrecord] at hop
    refine .idly ?_ (.refl s) fun _ _ _ => ⟨rfl, show 400 ≠ 502 by decide⟩
    rw [operation?_eq hmethod hroute, hop]
    rfl

theorem answers_prepare (hmethod : r.method = "POST") (hroute : r.route? = some route)
    (fields : List (Json.Field α)) (defaults : α) (request : α → Preparation)
    (hplain : ∀ a, (request a).update?.isSome = false)
    (hop : r.operationAt? route =
      (r.record fields defaults).toOption.map fun a => .prepare (request a)) :
    Answers r (withRecord r fields defaults fun a => prepare (request a)) := by
  rw [Option.map_eq_bind] at hop
  apply answers_withRecord hmethod hroute fields defaults hop
  intro a ha s
  have hbegun : s.begun (request a) = s := if_neg (Bool.eq_false_iff.1 (hplain a))
  obtain ⟨o, l, hrun⟩ : ∃ o l, (request a).run.exec s.ledger = (o, l) := ⟨_, _, rfl⟩
  rw [prepare_apply, hrun]
  rw [← hbegun] at hrun
  refine .preparing hmethod hroute ha hrun rfl ?_
  rw [hbegun, hplain]

theorem answers_redaction (hmethod : r.method = "POST") (hroute : r.route? = some route)
    (fields : List (Json.Field α)) (defaults : α) (request : α → Preparation)
    (hupdate : ∀ a, (request a).update?.isSome = true)
    (hop : r.operationAt? route =
      (r.record fields defaults).toOption.map fun a => .prepare (request a)) :
    Answers r (withRecord r fields defaults fun a => prepareRedaction (request a)) := by
  rw [Option.map_eq_bind] at hop
  apply answers_withRecord hmethod hroute fields defaults hop
  intro a ha s
  obtain ⟨o, l, hrun⟩ : ∃ o l, (request a).run.exec (s.begun (request a)).ledger = (o, l) :=
    ⟨_, _, rfl⟩
  rw [prepareRedaction_apply (hupdate a), hrun]
  refine .preparing hmethod hroute ha hrun rfl ?_
  rw [hupdate]

/-- A signature that is no text of one is refused before the ledger is asked. -/
theorem status_of_decode (a : SignatureBody) :
    Outcome.Fails a.decode (·.kind.status = 400) := by
  have hsignature : ∀ text, Outcome.Fails (Signature.ofHex text) (·.kind.status = 400) := by
    intro text
    rw [Signature.ofHex]
    split
    · exact .ok _
    · exact .error rfl
  have hcosigner : Outcome.Fails a.cosigner (·.kind.status = 400) := by
    rw [SignatureBody.cosigner]
    split
    · exact .ok _
    · exact (hsignature _).bind fun _ _ => .ok _
  have hhash : Outcome.Fails (txHashOfHex (Text.trim a.hash)) (·.kind.status = 400) :=
    .mapError fun _ => rfl
  rw [SignatureBody.decode]
  refine .ite (fun _ => .error rfl) fun _ => .ite (fun _ => .error rfl) fun _ => ?_
  exact hhash.bind fun _ _ => (hsignature _).bind fun _ _ => hcosigner.bind fun _ _ => .ok _

theorem answers_signature (hmethod : r.method = "POST") (hroute : r.route? = some .signature) :
    Answers r (serve now r .signature) := by
  have hop : r.operationAt? .signature =
      (r.record SignatureBody.fields {}).toOption.bind fun a =>
      a.decode.toOption.map fun decoded => .attachAndSubmit decoded.1 decoded.2.1 decoded.2.2 :=
    Option.map_bind ..
  apply answers_withRecord hmethod hroute _ _ hop
  intro a ha s
  cases hdecode : a.decode with
  | error e =>
    rw [acceptSignature_error hdecode]
    rw [hdecode] at ha
    refine .idly ?_ (.refl s) fun _ _ _ => ⟨rfl, ?_⟩
    · rw [operation?_eq hmethod hroute, ha]
      rfl
    · change e.kind.status ≠ 502
      rw [status_of_decode a e hdecode]
      decide
  | ok decoded =>
    obtain ⟨hash, primary, cosigner⟩ := decoded
    rw [acceptSignature_apply hdecode]
    rw [hdecode] at ha
    obtain ⟨o, l, hrun⟩ : ∃ o l, (Ledger.attachAndSubmit hash primary cosigner).exec s.ledger =
      (o, l) :=
      ⟨_, _, rfl⟩
    rw [hrun]
    exact .submitting hmethod hroute ha hrun rfl rfl

theorem answers_post (now : String) (hmethod : r.method = "POST")
    (hroute : r.route? = some route) (hpost : route.method = .post) :
    Answers r (serve now r route) := by
  cases route with
  | account =>
    refine answers_prepare hmethod hroute _ _ _ (fun a => ?_) rfl
    rw [AccountBody.preparation]
    split <;> rfl
  | funds => exact answers_prepare hmethod hroute _ _ _ (fun _ => rfl) rfl
  | config => exact answers_prepare hmethod hroute _ _ _ (fun _ => rfl) rfl
  | stake => exact answers_prepare hmethod hroute _ _ _ (fun _ => rfl) rfl
  | update => exact answers_redaction hmethod hroute _ _ _ (fun _ => rfl) rfl
  | delete => exact answers_redaction hmethod hroute _ _ _ (fun _ => rfl) rfl
  | signature => exact answers_signature hmethod hroute
  | _ => cases hpost

theorem answers_get {a : StateM Server HttpResponse} (hmethod : r.method ≠ "POST")
    (hroute : r.route? = some route) (hget : route.method = .get)
    (ha : ∀ s : Server, s.Rests (a s).2) : Answers r a := by
  intro s
  apply Serves.idly (if_neg hmethod) (ha s)
  intro other hother hpost
  rw [hroute] at hother
  cases hother
  rw [hget] at hpost
  cases hpost

theorem answers_bare {status : Nat} (hop : r.operation? = none) (hstatus : status ≠ 502) :
    Answers r (pure (.bare status)) :=
  fun s => .idly hop (.refl s) fun _ _ _ => ⟨rfl, hstatus⟩

/-- What a request does is told by the operation that it asks for. -/
theorem answers_handle (now : String) (r : HttpRequest) : Answers r (handle now r) := by
  rw [handle]
  by_cases hmethod : r.method = "POST"
  · rw [if_neg (by rw [hmethod]; decide)]
    cases hroute : Route.ofPath? (Route.pathOf r.target) with
    | none =>
      refine answers_bare ?_ (by decide)
      rw [HttpRequest.operation?, if_pos hmethod, hroute]
      rfl
    | some route =>
      cases hverb : route.method with
      | get =>
        simp only [hverb, hmethod]
        refine answers_bare ?_ (by decide)
        rw [operation?_eq hmethod hroute, operationAt?_of_get r hverb]
      | post =>
        simp only [hverb, hmethod]
        exact answers_post now hmethod hroute hverb
  · have hnone : r.operation? = none := if_neg hmethod
    split
    · exact answers_bare hnone (by decide)
    · cases hroute : Route.ofPath? (Route.pathOf r.target) with
      | none => exact answers_bare hnone (by decide)
      | some route =>
        dsimp only
        split
        · exact answers_get hmethod hroute ‹_› (rests_serve_of_get now r ‹_›)
        · exact answers_get hmethod hroute ‹_› fun s => rests_serve_of_get now r ‹_› s
        · exact absurd ‹_› hmethod
        · exact answers_bare hnone (by decide)

end Server

end RedactableLedger
