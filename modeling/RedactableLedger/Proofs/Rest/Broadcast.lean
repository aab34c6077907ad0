import RedactableLedger.Proofs.Lifecycle.Slots
import RedactableLedger.Proofs.Rest.Service

namespace RedactableLedger

open RedactableLedger.Action

theorem Link.broadcasts_hand (link : Link) (frame : Frame) :
    (link.hand frame false).broadcasts = link.broadcasts ++ [⟨link.endpoint, frame, false⟩] :=
  List.filter_append ..

theorem Ledger.broadcasts_of_attachAndSubmit {l : Ledger} {hash : TxHash}
    {tx record : Transaction} {primary : Signature} {cosigner : Option Signature}
    (hget : l.store.get hash = .ok (some tx))
    (hattach : tx.attach primary cosigner = .ok record) :
    (l.after (.operation (.attachAndSubmit hash primary cosigner))).link.broadcasts =
      l.link.broadcasts ++ [⟨l.link.endpoint, record.frame, false⟩] := by
  have hrun : (attach hash primary cosigner).exec l =
      (.ok record, ((attach hash primary cosigner).exec l).2) :=
    Prod.ext (outcome_of_attach hget hattach) rfl
  rw [after, Operation.run, exec_map, attachAndSubmit, exec_bind_ok hrun, exec_send_return,
    ← Link.broadcasts_hand]
  rfl

namespace Server

/-- The events of a run, each with the front end that it happens to. -/
def trace (s : Server) : List Event → List (Server × Event)
  | [] => []
  | e :: es => (s, e) :: (s.after e).trace es

def sent (s : Server) (e : Event) : List Dispatch :=
  (s.after e).broadcasts.drop s.broadcasts.length

namespace Event

def submits? (e : Event) : Option TxHash := e.operation?.bind (·.submits?)

/-- Whether an empty signature is attached to the record that is submitted at an event. -/
def attachesEmpty (e : Event) : Bool := (e.operation?.map (·.attachesEmpty)).getD false

/-- A frame that is broadcast at an event carries the record of the hash that is submitted, as
the front end holds it after the event. -/
structure Carries (e : Event) (s : Server) (d : Dispatch) (hash : TxHash) (tx : Transaction) :
    Prop where
  submits : e.submits? = some hash
  stored : s.store.get hash = .ok (some tx)
  type : d.frame.type = .broadcast tx.kind
  payload : Layout.transaction.decode d.frame.payload = .ok (tx, [])
  signed : tx.isSigned = !e.attachesEmpty

end Event

variable {s : Server} {e : Event} {l : Ledger}

theorem afterAll_cons (s : Server) (e : Event) (es : List Event) :
    s.afterAll (e :: es) = (s.after e).afterAll es :=
  rfl

theorem decode_frame {hash : TxHash} {tx : Transaction} {store : Store}
    (h : store.get hash = .ok (some tx)) :
    Layout.transaction.decode tx.frame.payload = .ok (tx, []) := by
  have hd := Layout.exact_transaction.decode_encode (Store.fits_of_get h) []
  rwa [List.append_nil] at hd

/-- An event broadcasts nothing, or one frame that carries what it submits. -/
theorem broadcasts_of_after (s : Server) (e : Event) :
    (s.after e).broadcasts = s.broadcasts ∨
      ∃ d hash tx, (s.after e).broadcasts = s.broadcasts ++ [d] ∧
        e.Carries (s.after e) d hash tx := by
  obtain ⟨l, hbefore, hafter⟩ := ledger_of_after s e
  cases he : e.operation? with
  | none =>
    rw [he] at hafter
    exact .inl (hafter.broadcasts.trans hbefore.broadcasts)
  | some op =>
    rw [he] at hafter
    cases Ledger.hands_of_operation op l with
    | nothing hlink =>
      refine .inl ?_
      rw [broadcasts, broadcasts, hafter.broadcasts, follow, hlink, hbefore.broadcasts]
    | @record tx hash hop hload hsigned hlink =>
      refine .inr ⟨⟨l.link.endpoint, tx.frame, false⟩, hash, tx, ?_, ?_, ?_, rfl, ?_, ?_⟩
      · rw [broadcasts, broadcasts, hafter.broadcasts, follow, hlink, Link.broadcasts_hand,
          hbefore.broadcasts]
      · rw [Event.submits?, he]
        exact hop
      · rw [store, hafter.store]
        exact Store.load_eq_ok.1 hload
      · exact decode_frame (Store.load_eq_ok.1 hload)
      · rw [Event.attachesEmpty, he]
        exact hsigned

theorem sent_of_append {ds : List Dispatch} (h : (s.after e).broadcasts = s.broadcasts ++ ds) :
    s.sent e = ds := by
  rw [sent, h, List.drop_left]

theorem broadcasts_append_sent (s : Server) (e : Event) :
    (s.after e).broadcasts = s.broadcasts ++ s.sent e := by
  obtain hnone | ⟨d, _, _, hone, _⟩ := broadcasts_of_after s e
  · rw [← List.append_nil s.broadcasts] at hnone
    rw [sent_of_append hnone, hnone]
  · rw [sent_of_append hone, hone]

theorem sent_of_after (s : Server) (e : Event) :
    s.sent e = [] ∨ ∃ d hash tx, s.sent e = [d] ∧ e.Carries (s.after e) d hash tx := by
  obtain hnone | ⟨d, hash, tx, hone, hcarries⟩ := broadcasts_of_after s e
  · rw [← List.append_nil s.broadcasts] at hnone
    exact .inl (sent_of_append hnone)
  · exact .inr ⟨d, hash, tx, sent_of_append hone, hcarries⟩

/-- All that is broadcast in a run is broadcast at its events, at most one frame at each, and
every frame carries the record that is submitted at its event. -/
theorem broadcasts_of_run (s : Server) (es : List Event) :
    (s.afterAll es).broadcasts = s.broadcasts ++ (s.trace es).flatMap (fun (t, e) => t.sent e) ∧
      ∀ t e, (t, e) ∈ s.trace es →
        t.sent e = [] ∨ ∃ d hash tx, t.sent e = [d] ∧ e.Carries (t.after e) d hash tx := by
  refine ⟨?_, fun t e _ => sent_of_after t e⟩
  induction es generalizing s with
  | nil => exact (List.append_nil _).symm
  | cons e es ih =>
    rw [afterAll_cons, ih, broadcasts_append_sent, trace, List.flatMap_cons, List.append_assoc]

def ofLedger (l : Ledger) : Server := ⟨⟨l, .fresh, .unreachable .endedInHeader, 0, none⟩, .zero⟩

theorem ledger_ofLedger (l : Ledger) : (ofLedger l).ledger = l := rfl

/-- What happens at the ledger alone leads it where it would lead it without a front end. -/
theorem ledger_of_occurrences (s : Server) (os : List Occurrence) :
    (s.afterAll (os.map .occurrence)).ledger = s.ledger.afterAll os := by
  induction os generalizing s with
  | nil => rfl
  | cons o os ih =>
    rw [List.map_cons, afterAll_cons, ih, Ledger.afterAll_cons, after, ledger, withLedger]

/-- A change of settings is prepared, and submitted with a signature in which nothing is
signed. -/
def unsignedSubmission : List Occurrence :=
  [Ledger.baseConfig, .operation (.attachAndSubmit Ledger.baseConfigTx.contentHash .empty none)]

/-- A record is broadcast unsigned if an empty signature is attached with its submission, though
it is not accepted for submission as it is. -/
theorem unsigned_broadcast :
    (∃ d ∈ ((ofLedger .empty).afterAll (unsignedSubmission.map .occurrence)).broadcasts, ∃ tx,
        Layout.transaction.decode d.frame.payload = .ok (tx, []) ∧ tx.isSigned = false) ∧
      ((Ledger.submit Ledger.baseConfigTx.contentHash).exec
        (Ledger.empty.after Ledger.baseConfig)).1 = .error (.validation .unsigned) := by
  have hget :=
    (Ledger.staged_of_deed (Ledger.deed_of_baseConfig Ledger.empty) Ledger.baseConfigTx_fits).1
  have hattach : Ledger.baseConfigTx.attach .empty none = .ok Ledger.baseConfigTx := rfl
  constructor
  · rw [broadcasts, ledger_of_occurrences, ledger_ofLedger, unsignedSubmission,
      Ledger.afterAll_cons, Ledger.afterAll_cons, Ledger.afterAll_nil,
      Ledger.broadcasts_of_attachAndSubmit hget hattach]
    exact ⟨_, List.mem_append_right _ List.mem_cons_self, _, decode_frame hget, by decide⟩
  · rw [Ledger.exec_submit, Store.load_eq_ok.2 hget]
    rfl

end Server

end RedactableLedger
