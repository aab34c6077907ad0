import RedactableLedger.Proofs.Key.Ecdsa
import RedactableLedger.Proofs.Lifecycle.Atomic
import RedactableLedger.Proofs.Lifecycle.Validate
import RedactableLedger.Proofs.Material

namespace RedactableLedger

open RedactableLedger.Action
open RedactableLedger.Workspace

/-- The failure is one of what was given: an argument is missing, out of range, malformed, or
names no good file. -/
def Fault.IsOfArguments (e : Fault) : Prop :=
  e.kind = .validation ∨ e.kind = .decoding ∨ e.kind = .resolution

def Preparation.TakesKey (request : Preparation) (cosigner : String) : Prop :=
  Text.isBlankText cosigner = false → ∃ a, request = .transferFunds a

def ChangeConfig.record (a : ChangeConfig) : Transaction :=
  .unsigned a.header a.fee [] none (.config a.option a.payload a.txCount)

namespace Transaction

variable {tx record : Transaction} {hash : TxHash} {key : PrivateKey}
  {cosigner : Option PrivateKey}

/-- Keys that sign what takes their signatures can only fail to sign. -/
theorem fails_sign (h : cosigner.isSome = true → tx.kind.takesCosigner = true) (hash : TxHash)
    (key : PrivateKey) :
    (tx.sign hash key cosigner).Fails (·.kind = .crypto) := by
  have hsigning : ∀ r : Except CryptoFault Signature,
      Outcome.Fails (r.mapError Fault.crypto) (·.kind = .crypto) :=
    fun _ => .mapError fun _ => rfl
  rw [sign]
  refine Outcome.Fails.bind (hsigning _) fun primary _ => ?_
  refine Outcome.Fails.bind (Outcome.fails_mapM (fun _ => hsigning _) cosigner)
    fun second hsecond => ?_
  rw [attach, if_neg]
  · exact .ok _
  · rw [Bool.and_eq_true, Outcome.isSome_of_mapM hsecond, Bool.not_eq_true']
    rintro ⟨hsome, htakes⟩
    rw [h hsome] at htakes
    cases htakes

theorem isSigned_of_sign (h : tx.sign hash key cosigner = .ok record) :
    record.isSigned = true := by
  obtain ⟨primary, hprimary, h⟩ := bind_eq_ok.1 h
  obtain ⟨second, _, h⟩ := bind_eq_ok.1 h
  rw [isSigned_of_attach h, Ecdsa.isEmpty_of_sign (mapError_eq_ok.1 hprimary)]
  rfl

end Transaction

namespace Ledger

variable {l l' : Ledger} {hash : TxHash} {tx record : Transaction} {key : PrivateKey}
  {cosigner : Option PrivateKey} {e : Fault}

theorem kind_of_sign (hload : l.store.load hash = .ok tx)
    (hcosigner : cosigner.isSome = true → tx.kind.takesCosigner = true)
    (h : ((sign hash key cosigner).exec l).1 = .error e) : e.kind = .crypto := by
  rw [sign, exec_amend_error] at h
  refine Outcome.Fails.bind (Q := fun e => e.kind = .crypto) ?_ (fun tx' htx' => ?_) e h
  · rw [hload]
    exact .ok tx
  · cases hload.symm.trans htx'
    exact Outcome.Fails.bind (Transaction.fails_sign hcosigner hash key) fun _ _ => .ok _

theorem load_of_prepared {request : Preparation} {p : Prepared} (hfits : request.Fits)
    (h : request.run.exec l = (.ok p, l')) : l'.store.load p.hash = .ok p.tx := by
  obtain ⟨records, hleaves, hupdates⟩ := leaves_of_prepare hfits h
  have hget : l'.store.get p.hash = .ok (some p.tx) := by
    cases hleaves <;> rw [hupdates, List.lookup_cons_self]
  rw [Store.load, hget]

/-- What was signed is staged with a signature, so that submitting it can only fail at the
link. -/
theorem kind_of_submit (hsign : (sign hash key cosigner).exec l = (.ok record, l'))
    (h : ((submit hash).exec l').1 = .error e) : e.kind = .transport := by
  obtain ⟨tx, hload, hrecord, hstore⟩ := record_of_signing hsign
  obtain ⟨primary, second, hattach⟩ := Transaction.attach_of_sign hrecord
  have hfits : record.Fits := Transaction.fits_of_attach hattach (Store.fits_of_load hload)
  rw [exec_submit, hstore, Store.load_put_self _ hash hfits] at h
  dsimp only at h
  rw [Transaction.isSigned_of_sign hrecord, if_pos rfl] at h
  obtain ⟨fault, rfl⟩ := Link.transport_of_report h
  rfl

/-- A change of settings is prepared from a request that passes its check and a root key that is
resolved. -/
theorem of_run_config {a : ChangeConfig} {p : Prepared}
    (h : (Preparation.changeConfig a).run.exec l = (.ok p, l')) :
    a.validate = .ok () ∧
      ∃ root, (resolvePublicKey a.rootWallet).exec l.workspace =
        (.ok (some root), l'.workspace) := by
  obtain ⟨draft, l₁, hdraft, hstage⟩ := exec_bind_eq_ok.1 h
  obtain ⟨⟨⟩, l₂, hvalid, hdraft⟩ := exec_bind_eq_ok.1 hdraft
  obtain ⟨root, l₃, hroot, hdraft⟩ := exec_bind_eq_ok.1 hdraft
  obtain ⟨w, hresolved, hl₃⟩ := resolved_of_require hroot
  have hstaged : l'.workspace = l₁.workspace := by
    rw [exec_stage] at hstage
    split at hstage <;> cases hstage
    rfl
  have hdrafted : l₁ = l₃ := by
    obtain ⟨tx, l₄, htx, hdraft⟩ := exec_bind_eq_ok.1 hdraft
    cases hdraft
    exact (congrArg Prod.snd htx).symm
  have hl₂ : l = l₂ := congrArg Prod.snd hvalid
  refine ⟨congrArg Prod.fst hvalid, root, ?_⟩
  rw [hstaged, hdrafted, hl₃, hl₂]
  exact hresolved

theorem exec_run_config {a : ChangeConfig} {root : PublicKey} (hvalid : a.validate = .ok ())
    (hroot : (resolvePublicKey a.rootWallet).exec l.workspace =
      (.ok (some root), l.workspace)) :
    (Preparation.changeConfig a).run.exec l = (.ok ⟨a.record.contentHash, a.record⟩,
      { l with store := l.store.put a.record.contentHash a.record }) := by
  obtain ⟨_, hfee, _⟩ := bind_eq_ok.1 hvalid
  have hdraft : (draftConfig a).exec l = (.ok ⟨a.record, none⟩, l) := by
    rw [draftConfig, hvalid]
    refine (exec_bind_ok (exec_lift _ _)).trans ?_
    refine (exec_bind_ok (exec_require "rootwallet" hroot)).trans ?_
    rw [Transaction.changeConfig, hfee]
    rfl
  refine (exec_bind_ok hdraft).trans ?_
  rw [exec_stage]
  rfl

end Ledger

namespace Workspace

theorem isBlankText_of_resolved {w : Workspace} {argument : String} {found : Option PrivateKey}
    (h : ((resolvePrivateKey argument).exec w).1 = .ok found) (hsome : found.isSome = true) :
    Text.isBlankText argument = false := by
  refine Bool.eq_false_iff.2 fun hblank => ?_
  have hnone : (resolvePrivateKey argument).exec w = (.ok none, w) :=
    exec_resolveWith_blank _ _ hblank w
  rw [hnone] at h
  cases h
  cases hsome

/-- A key to sign with cannot be resolved, or the one for the second slot cannot although the
first one can. -/
inductive RefusesKeys (w : Workspace) (signWith cosigner : String) (e : Fault) : Prop
  | primary (h : ((resolvePrivateKey signWith).exec w).1 = .error e)
  | cosigner {key : PrivateKey}
      (hkey : ((resolvePrivateKey signWith).exec w).1 = .ok (some key))
      (h : ((resolvePrivateKey cosigner).exec w).1 = .error e)

/-- A root key and the keys to sign with are resolved without any change. -/
structure Resolves (w : Workspace) (rootWallet : String) (signWith : Option String) : Prop where
  root : ∃ key, (resolvePublicKey rootWallet).exec w = (.ok (some key), w)
  signing : ∀ argument ∈ signWith, ∃ key, (resolvePrivateKey argument).exec w =
    (.ok (some key), w)

theorem Resolves.of_extends {w w' : Workspace} {rootWallet : String} {signWith : Option String}
    (h : w.Resolves rootWallet signWith) (hext : w.Extends w') :
    w'.Resolves rootWallet signWith where
  root := by
    obtain ⟨key, hkey⟩ := h.root
    exact ⟨key, settles_resolvePublicKey _ _ _ _ _ hkey hext⟩
  signing argument hargument := by
    obtain ⟨key, hkey⟩ := h.signing argument hargument
    exact ⟨key, settles_resolvePrivateKey _ _ _ _ _ hkey hext⟩

end Workspace

namespace CommandLine

def RunFault.cause? : RunFault → Option Fault
  | fault cause => some cause
  | config _ cause => some cause
  | submission _ cause => some cause
  | _ => none

def RunFault.IsOfArguments (f : RunFault) : Prop := ∃ e, f.cause? = some e ∧ e.IsOfArguments

namespace Session

def ledger (s : Session) : Ledger := s.client.ledger

def withLedger (s : Session) (l : Ledger) : Session :=
  { s with client := { s.client with ledger := l } }

/-- What is staged under a hash has a use for the second signature if a key for it is named. -/
def Cosigns (s : Session) (hash : TxHash) (cosigner : String) : Prop :=
  ∃ tx, s.ledger.store.load hash = .ok tx ∧
    (Text.isBlankText cosigner = false → tx.kind.takesCosigner = true)

end Session

/-- What was prepared is staged, and takes a second signature where a key for it may be
named. -/
theorem cosigns_of_prepared {request : Preparation} {cosigner : String} {s : Session}
    {p : Prepared} {l : Ledger} (hfits : request.Fits) (htakes : request.TakesKey cosigner)
    (h : request.run.exec s.ledger = (.ok p, l)) :
    (s.withLedger l).Cosigns p.hash cosigner := by
  obtain ⟨draft, _, hdrafts, htx, _⟩ := Ledger.staged_of_run h
  refine ⟨p.tx, Ledger.load_of_prepared hfits h, fun hnamed => ?_⟩
  obtain ⟨a, rfl⟩ := htakes hnamed
  rw [← htx]
  cases hdrafts with
  | transfer => rfl
  | update hrequest => cases hrequest

namespace Script

variable {s t u : Session} {f : RunFault} {request : Preparation} {signWith : Option String}
  {key cosigner : String} {hash : TxHash} {tx : Transaction} {l : Ledger} {e : Fault}

theorem run_bind_ok {x : Script α} {g : α → Script β} {a : α} (h : x.run.run s = (.ok a, u)) :
    (x >>= g).run.run s = (g a).run.run u := by
  rw [ExceptT.run_bind, StateT.run_bind, h]
  rfl

theorem run_bind_error {x : Script α} {g : α → Script β} (h : x.run.run s = (.error f, t)) :
    (x >>= g).run.run s = (.error f, t) := by
  rw [ExceptT.run_bind, StateT.run_bind, h]
  rfl

theorem ok_of_bind {x : Script α} {g : α → Script β} {b : β}
    (h : (x >>= g).run.run s = (.ok b, t)) :
    ∃ a u, x.run.run s = (.ok a, u) ∧ (g a).run.run u = (.ok b, t) := by
  obtain ⟨r, u, hx⟩ : ∃ r u, x.run.run s = (r, u) := ⟨_, _, rfl⟩
  cases r with
  | error e =>
    rw [run_bind_error hx] at h
    cases h
  | ok a =>
    rw [run_bind_ok hx] at h
    exact ⟨a, u, hx, h⟩

theorem error_of_bind {x : Script α} {g : α → Script β}
    (h : (x >>= g).run.run s = (.error f, t)) :
    x.run.run s = (.error f, t) ∨ ∃ a u, x.run.run s = (.ok a, u) ∧
      (g a).run.run u = (.error f, t) := by
  obtain ⟨r, u, hx⟩ : ∃ r u, x.run.run s = (r, u) := ⟨_, _, rfl⟩
  cases r with
  | error e =>
    rw [run_bind_error hx] at h
    cases h
    exact .inl hx
  | ok a =>
    rw [run_bind_ok hx] at h
    exact .inr ⟨a, u, hx, h⟩

theorem run_ledger (a : Action Ledger α) (wrap : Fault → RunFault) (s : Session) :
    (attempt (Client.onLedger a) wrap).run.run s =
      ((a.exec s.ledger).1.mapError wrap, s.withLedger (a.exec s.ledger).2) := by
  have hexec : (Client.onLedger a).exec s.client =
      ((a.exec s.ledger).1, { s.client with ledger := (a.exec s.ledger).2 }) := rfl
  rw [attempt, run_get_bind, hexec]
  dsimp only
  rw [run_set_bind]
  cases (a.exec s.ledger).1 <;> rfl

theorem error_of_ledger {a : Action Ledger α} {wrap : Fault → RunFault}
    (h : (attempt (Client.onLedger a) wrap).run.run s = (.error f, t)) :
    ∃ e l, a.exec s.ledger = (.error e, l) ∧ f = wrap e ∧ t = s.withLedger l := by
  rw [run_ledger] at h
  obtain ⟨r, l, hexec⟩ : ∃ r l, a.exec s.ledger = (r, l) := ⟨_, _, rfl⟩
  rw [hexec] at h ⊢
  cases r with
  | error e =>
    cases h
    exact ⟨e, l, rfl, rfl, rfl⟩
  | ok x => cases h

theorem ok_of_ledger {a : Action Ledger α} {wrap : Fault → RunFault} {x : α}
    (h : (attempt (Client.onLedger a) wrap).run.run s = (.ok x, t)) :
    ∃ l, a.exec s.ledger = (.ok x, l) ∧ t = s.withLedger l := by
  rw [run_ledger] at h
  obtain ⟨r, l, hexec⟩ : ∃ r l, a.exec s.ledger = (r, l) := ⟨_, _, rfl⟩
  rw [hexec] at h ⊢
  cases r with
  | error e => cases h
  | ok x =>
    cases h
    exact ⟨l, rfl, rfl⟩

theorem run_privateKey (argument : String) (s : Session) :
    (privateKey argument).run.run s =
      (((resolvePrivateKey argument).exec s.ledger.workspace).1.mapError .fault, s) := by
  have hexec : (Ledger.inWorkspace (resolvePrivateKey argument)).exec s.ledger =
      (((resolvePrivateKey argument).exec s.ledger.workspace).1, s.ledger) := by
    rw [Ledger.inWorkspace, exec_on, exec_resolvePrivateKey]
  rw [privateKey, run_ledger, hexec]
  rfl

theorem error_of_privateKey (h : (privateKey key).run.run s = (.error f, t)) :
    ∃ e, ((resolvePrivateKey key).exec s.ledger.workspace).1 = .error e ∧ f = .fault e ∧
      t = s := by
  rw [run_privateKey] at h
  cases hkey : ((resolvePrivateKey key).exec s.ledger.workspace).1 with
  | error e =>
    rw [hkey] at h
    cases h
    exact ⟨e, rfl, rfl, rfl⟩
  | ok found =>
    rw [hkey] at h
    cases h

theorem ok_of_privateKey {found : Option PrivateKey}
    (h : (privateKey key).run.run s = (.ok found, t)) :
    ((resolvePrivateKey key).exec s.ledger.workspace).1 = .ok found ∧ t = s := by
  rw [run_privateKey] at h
  cases hkey : ((resolvePrivateKey key).exec s.ledger.workspace).1 with
  | error e =>
    rw [hkey] at h
    cases h
  | ok found' =>
    rw [hkey] at h
    cases h
    exact ⟨rfl, rfl⟩

/-- Once the keys are resolved, only signing and the link can fail. -/
theorem not_isOfArguments_of_signing {k : PrivateKey} {second : Option PrivateKey}
    (hload : s.ledger.store.load hash = .ok tx)
    (hsecond : second.isSome = true → tx.kind.takesCosigner = true)
    (h : (attempt (Client.onLedger (Ledger.sign hash k second)) >>=
      fun _ => submit hash).run.run s = (.error f, t)) :
    ¬f.IsOfArguments := by
  rintro ⟨cause, hcause, hkind⟩
  obtain hsign | ⟨record, u, hsign, hsubmitting⟩ := error_of_bind h
  · obtain ⟨e, l, hsigned, rfl, rfl⟩ := error_of_ledger hsign
    have hcrypto : e.kind = .crypto :=
      Ledger.kind_of_sign hload hsecond (congrArg Prod.fst hsigned)
    cases hcause
    rw [Fault.IsOfArguments, hcrypto] at hkind
    simp at hkind
  · obtain ⟨l, hsigned, rfl⟩ := ok_of_ledger hsign
    obtain hsubmit | ⟨_, _, _, hdone⟩ := error_of_bind hsubmitting
    · obtain ⟨e, l', hsubmitted, rfl, rfl⟩ := error_of_ledger hsubmit
      have htransport : e.kind = .transport :=
        Ledger.kind_of_submit hsigned (congrArg Prod.fst hsubmitted)
      cases hcause
      rw [Fault.IsOfArguments, htransport] at hkind
      simp at hkind
    · cases hdone

/-- Signing and submitting fails for what was given only where keys are not resolved, before
anything is changed. -/
theorem refuses_of_signAndSubmit (hcosigns : s.Cosigns hash cosigner)
    (h : (signAndSubmit hash key cosigner).run.run s = (.error f, t)) (hf : f.IsOfArguments) :
    ∃ e, f = .fault e ∧ t = s ∧ s.ledger.workspace.RefusesKeys key cosigner e := by
  obtain ⟨tx, hload, htakes⟩ := hcosigns
  obtain hkey | ⟨found, u, hkey, hrest⟩ := error_of_bind h
  · obtain ⟨e, he, rfl, rfl⟩ := error_of_privateKey hkey
    exact ⟨e, rfl, rfl, .primary he⟩
  obtain ⟨hfound, rfl⟩ := ok_of_privateKey hkey
  cases found with
  | none =>
    cases hrest
    obtain ⟨e, he, _⟩ := hf
    cases he
  | some k =>
    obtain hsecond | ⟨second, v, hsecond, hsigning⟩ := error_of_bind hrest
    · obtain ⟨e, he, rfl, rfl⟩ := error_of_privateKey hsecond
      exact ⟨e, rfl, rfl, .cosigner hfound he⟩
    obtain ⟨hcosigner, rfl⟩ := ok_of_privateKey hsecond
    have htaken : second.isSome = true → tx.kind.takesCosigner = true := fun hsome =>
      htakes (isBlankText_of_resolved hcosigner hsome)
    exact absurd hf (not_isOfArguments_of_signing hload htaken hsigning)

/-- Where the first transaction is prepared and the key to sign it with is not resolved, the
command fails with the transaction staged. -/
theorem run_stage_of_refused {command : StagingRequest} {rest : List Preparation} {p : Prepared}
    (hrequest : command.preparations = request :: rest)
    (hrun : request.run.exec s.ledger = (.ok p, l))
    (hkey : ((resolvePrivateKey key).exec l.workspace).1 = .error e) :
    (stage command (some key)).run.run s = (.error (.fault e), s.withLedger l) := by
  have hprepare : (attempt (Client.onLedger request.run)).run.run s =
      (.ok p, s.withLedger l) := by
    rw [run_ledger, hrun]
    rfl
  have hrefused : (privateKey key).run.run (s.withLedger l) =
      (.error (.fault e), s.withLedger l) := by
    have hexec : ((resolvePrivateKey key).exec (s.withLedger l).ledger.workspace).1 =
        .error e := hkey
    rw [run_privateKey, hexec]
    rfl
  rw [stage, hrequest]
  refine run_bind_error ?_
  refine (run_bind_ok hprepare).trans ?_
  exact run_bind_error (run_bind_error hrefused)

/-- How staging a transaction stops for what was given: it was not prepared, or the keys were
not resolved after it was. -/
inductive Stops (request : Preparation) (signWith : Option String) (cosigner : String)
    (s : Session) :
    RunFault → Session → Prop
  | preparation {e : Fault} {l : Ledger} (hrun : request.run.exec s.ledger = (.error e, l)) :
      Stops request signWith cosigner s (.fault e) (s.withLedger l)
  | keys {p : Prepared} {l : Ledger} {key : String} {e : Fault}
      (hrun : request.run.exec s.ledger = (.ok p, l))
      (hkey : signWith = some key) (hrefuses : l.workspace.RefusesKeys key cosigner e) :
      Stops request signWith cosigner s (.fault e) (s.withLedger l)

theorem stops_of_stageOne (hfits : request.Fits) (htakes : request.TakesKey cosigner)
    (h : (stageOne request signWith cosigner).run.run s = (.error f, t))
    (hf : f.IsOfArguments) :
    Stops request signWith cosigner s f t := by
  obtain hprepare | ⟨p, u, hprepare, hrest⟩ := error_of_bind h
  · obtain ⟨e, l, hrun, rfl, rfl⟩ := error_of_ledger hprepare
    exact .preparation hrun
  obtain ⟨l, hrun, rfl⟩ := ok_of_ledger hprepare
  cases signWith with
  | none => cases hrest
  | some key =>
    obtain hsign | ⟨_, v, _, hprint⟩ := error_of_bind hrest
    · obtain ⟨e, rfl, rfl, hrefuses⟩ :=
        refuses_of_signAndSubmit (cosigns_of_prepared hfits htakes hrun) hsign hf
      exact .keys hrun rfl hrefuses
    · cases hprint

/-- Where a change of settings was prepared and signed, its keys are resolved again. -/
theorem resolves_of_stageOne {a : ChangeConfig}
    (h : (stageOne (.changeConfig a) signWith cosigner).run.run s = (.ok (), t)) :
    a.validate = .ok () ∧ t.ledger.workspace.Resolves a.rootWallet signWith := by
  obtain ⟨p, u, hprepare, hrest⟩ := ok_of_bind h
  obtain ⟨l, hrun, rfl⟩ := ok_of_ledger hprepare
  obtain ⟨hvalid, key, hroot⟩ := Ledger.of_run_config hrun
  have hagain := settles_resolvePublicKey _ _ _ _ _ hroot (.refl _)
  refine ⟨hvalid, ?_⟩
  cases signWith with
  | none =>
    cases hrest
    exact ⟨⟨key, hagain⟩, by rintro _ ⟨⟩⟩
  | some argument =>
    obtain ⟨_, v, hsign, hprint⟩ := ok_of_bind hrest
    obtain ⟨found, w, hkey, hsigning⟩ := ok_of_bind hsign
    obtain ⟨hfound, rfl⟩ := ok_of_privateKey hkey
    cases found with
    | none => cases hsigning
    | some k =>
      have hext := grows_signAndSubmit p.hash argument cosigner l.workspace (s.withLedger l)
        (.refl _)
      rw [hsign] at hext
      cases hprint
      have hresolves : l.workspace.Resolves a.rootWallet (some argument) := by
        refine ⟨⟨key, hagain⟩, ?_⟩
        rintro _ ⟨⟩
        exact ⟨k, Prod.ext hfound (exec_resolvePrivateKey _ _)⟩
      exact hresolves.of_extends hext

theorem not_stops_of_resolves {a : ChangeConfig} (hvalid : a.validate = .ok ())
    (h : s.ledger.workspace.Resolves a.rootWallet signWith) :
    ¬Stops (.changeConfig a) signWith "" s f t := by
  intro hstops
  obtain ⟨root, hroot⟩ := h.root
  have hrun := Ledger.exec_run_config hvalid hroot
  cases hstops with
  | preparation hfails =>
    rw [hrun] at hfails
    cases hfails
  | keys hdone hkey hrefuses =>
    rw [hrun] at hdone
    cases hdone
    obtain ⟨key, hfound⟩ := h.signing _ hkey
    cases hrefuses with
    | primary hprimary =>
      change ((resolvePrivateKey _).exec s.ledger.workspace).1 = _ at hprimary
      rw [hfound] at hprimary
      cases hprimary
    | cosigner _ hcosigner => cases hcosigner

variable {rootWallet : String}

theorem stageAll_never_stops {requests : List ChangeConfig}
    (hrequests : ∀ a ∈ requests, a.validate = .ok () ∧ a.rootWallet = rootWallet)
    (hkeys : s.ledger.workspace.Resolves rootWallet signWith)
    (h : (stageAll signWith "" (requests.map .changeConfig)).run.run s = (.error f, t)) :
    ¬f.IsOfArguments := by
  intro hf
  -- the keys stay resolved from one change to the next, as files are only added to
  induction requests generalizing s with
  | nil => cases h
  | cons a rest ih =>
    obtain ⟨hvalid, rfl⟩ := hrequests a List.mem_cons_self
    obtain hfirst | ⟨_, u, hfirst, hrest⟩ := error_of_bind h
    · exact not_stops_of_resolves hvalid hkeys
        (stops_of_stageOne (by rintro _ ⟨⟩) (by rintro ⟨⟩) hfirst hf)
    · have hkeys' := (resolves_of_stageOne hfirst).2
      exact ih (fun b hb => hrequests b (List.mem_cons_of_mem a hb)) hkeys' hrest

end Script

end CommandLine

end RedactableLedger
