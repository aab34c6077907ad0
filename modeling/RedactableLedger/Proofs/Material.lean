import RedactableLedger.CommandLine.Run
import RedactableLedger.Proofs.Rest.Visit
import RedactableLedger.Proofs.Workspace

namespace RedactableLedger

open RedactableLedger.Action
open RedactableLedger.Workspace

namespace Client

def Grows (a : Action Client α) : Prop :=
  ∀ w : Workspace, Preserves (fun c : Client => w.Extends c.ledger.workspace) a

theorem grows_onLedger {a : Action Ledger α}
    (h : ∀ w : Workspace, Preserves (fun l : Ledger => w.Extends l.workspace) a) :
    Grows (onLedger a) :=
  fun w => preserves_onLedger fun _ => h w

theorem grows_inWorkspace {a : Action Workspace α} (h : Workspace.Grows a) :
    Grows (onLedger (Ledger.inWorkspace a)) :=
  grows_onLedger fun w => Ledger.preserves_inWorkspace (h w)

theorem grows_getAccount (address : Address) : Grows (getAccount address) := fun _ =>
  preserves_getAccount (fun _ _ _ h => h) address

theorem grows_checkAccount (a : CheckAccount) : Grows (checkAccount a) := by
  intro w
  refine (Preserves.lift _).bind fun _ => ?_
  have haddress : Grows (onLedger (checkedAddress a)) := by
    refine grows_onLedger fun w => .ite (.lift _) (Preserves.bind ?_ fun _ => .pure _)
    exact Ledger.preserves_require _ ((Ledger.stable_extends w).publicKey a.wallet)
  exact (haddress w).bind fun address => grows_getAccount address w

end Client

namespace Server

theorem extends_of_handle (now : String) (r : HttpRequest) (s : Server) :
    s.ledger.workspace.Extends (handle now r s).2.ledger.workspace := by
  cases answers_handle now r s with
  | idly _ hrests _ =>
    rw [hrests.workspace]
    exact .refl _
  | @preparing _ request o l _ _ _ hrun _ hafter =>
    have hrests := rests_begun s request
    have hrun' := (Ledger.stable_extends (s.begun request).ledger.workspace).prepare request _
      (.refl _)
    rw [hrun, hrests.workspace] at hrun'
    rw [hafter]
    exact hrun'
  | @submitting hash primary cosigner o l _ _ _ hrun _ hafter =>
    have hrun' :=
      Ledger.extends_of_run s.ledger.workspace (.attachAndSubmit hash primary cosigner) s.ledger
        (.refl _)
    rw [Operation.run, exec_map, hrun] at hrun'
    rw [hafter]
    exact hrun'

theorem extends_of_handleAll (now : String) (rs : List HttpRequest) (s : Server) :
    s.ledger.workspace.Extends (handleAll now rs s).2.ledger.workspace := by
  induction rs generalizing s with
  | nil => exact .refl _
  | cons r rs ih => exact (extends_of_handle now r s).trans (ih (handle now r s).2)

end Server

namespace CommandLine.Script

def Grows (x : Script α) : Prop :=
  ∀ (w : Workspace) (s : Session), w.Extends s.client.ledger.workspace →
    w.Extends (x.run.run s).2.client.ledger.workspace

theorem Grows.pure (x : α) : Grows (pure x) := fun _ _ h => h

theorem Grows.throw (e : RunFault) : Grows (throw e : Script α) := fun _ _ h => h

theorem Grows.bind {x : Script α} {f : α → Script β} (hx : Grows x) (hf : ∀ a, Grows (f a)) :
    Grows (x >>= f) := by
  intro w s h
  have hfirst := hx w s h
  rw [ExceptT.run_bind, StateT.run_bind]
  obtain ⟨r, t, hrun⟩ : ∃ r t, x.run.run s = (r, t) := ⟨_, _, rfl⟩
  rw [hrun] at hfirst ⊢
  cases r with
  | ok a => exact hf a w t hfirst
  | error e => exact hfirst

theorem Grows.print (line : String) : Grows (print line) := fun _ _ h => h

theorem run_get_bind (f : Session → Script α) (s : Session) :
    (get >>= f).run.run s = (f s).run.run s := rfl

theorem run_set_bind (t : Session) (f : PUnit → Script α) (s : Session) :
    (set t >>= f).run.run s = (f ⟨⟩).run.run t := rfl

theorem run_attempt (a : Action Client α) (wrap : Fault → RunFault) (s : Session) :
    ((attempt a wrap).run.run s).2 = { s with client := (a.exec s.client).2 } := by
  rw [attempt, run_get_bind]
  dsimp only
  rw [run_set_bind]
  cases (a.exec s.client).1 <;> rfl

theorem Grows.attempt {a : Action Client α} (h : Client.Grows a) (wrap : Fault → RunFault) :
    Grows (attempt a wrap) := by
  intro w s hs
  rw [run_attempt]
  exact h w s.client hs

theorem grows_privateKey (argument : String) : Grows (privateKey argument) :=
  .attempt (Client.grows_inWorkspace (grows_resolvePrivateKey argument)) _

theorem grows_run {a : Action Ledger α} (op : Operation) (f : α → Operation.Answer)
    (h : op.run = f <$> a) :
    Client.Grows (Client.onLedger a) := by
  refine Client.grows_onLedger fun w l hl => ?_
  have hrun := Ledger.extends_of_run w op l hl
  rw [h, exec_map] at hrun
  exact hrun

theorem grows_submit (hash : TxHash) : Grows (submit hash) :=
  (Grows.attempt (grows_run (.submit hash) _ rfl) _).bind fun _ => .pure _

theorem grows_signAndSubmit (hash : TxHash) (signWith cosigner : String) :
    Grows (signAndSubmit hash signWith cosigner) := by
  refine (grows_privateKey signWith).bind fun key? => ?_
  cases key? with
  | none => exact .throw _
  | some key =>
    refine (grows_privateKey cosigner).bind fun second => ?_
    exact (Grows.attempt (grows_run (.sign hash key second) _ rfl) _).bind fun _ =>
      grows_submit hash

theorem grows_stageOne (request : Preparation) (signWith : Option String) (cosigner : String) :
    Grows (stageOne request signWith cosigner) := by
  refine (Grows.attempt (grows_run (.prepare request) _ rfl) _).bind fun p => ?_
  cases signWith with
  | none => exact .print _
  | some key => exact (grows_signAndSubmit p.hash key cosigner).bind fun _ => .print _

theorem grows_stageAll (signWith : Option String) (cosigner : String)
    (requests : List Preparation) :
    Grows (stageAll signWith cosigner requests) := by
  induction requests with
  | nil => exact .pure _
  | cons request rest ih => exact (grows_stageOne request signWith cosigner).bind fun _ => ih

theorem grows_sign (hash signature : String) (cosignature : Option String) :
    Grows (sign hash signature cosignature) := by
  refine (Grows.attempt (fun _ => .lift _) _).bind fun given => ?_
  exact (Grows.attempt (grows_run (.attachAndSubmit _ _ _) _ rfl) _).bind fun _ => .print _

theorem grows_resubmit (hash : String) : Grows (resubmit hash) :=
  (Grows.attempt (fun _ => .lift _) _).bind fun hash => (grows_submit hash).bind fun _ =>
    .print _

theorem grows_check (request : CheckAccount) : Grows (check request) := by
  refine (Grows.attempt (Client.grows_checkAccount request) _).bind fun found => ?_
  cases found <;> exact .print _

theorem grows_serve (surroundings : Surroundings) (port : UInt16) :
    Grows (serve surroundings port) := by
  intro w s h
  rw [serve]
  split
  · exact h
  · exact h.trans (Server.extends_of_handleAll _ _ ⟨s.client, .zero⟩)

theorem grows_command (surroundings : Surroundings) (config : Config) (c : Command) :
    Grows (c.run surroundings config) := by
  cases c with
  | stage request signWith =>
    change Grows (stage request signWith)
    rw [stage]
    split
    · exact .throw _
    · exact grows_stageAll signWith _ _
  | check request => exact grows_check request
  | sign hash signature cosignature => exact grows_sign hash signature cosignature
  | submit hash => exact grows_resubmit hash
  | rest port => exact grows_serve surroundings _

end CommandLine.Script

inductive Material where
  | publicKey (found : Option PublicKey)
  | privateKey (found : Option PrivateKey)
  | commitment (found : Option Bytes)
  | params (found : Option ChameleonParams)

/-- The ways to resolve an argument. -/
inductive Resolver where
  | publicKey
  | privateKey
  | commitment
  | params

namespace Resolver

def resolve (r : Resolver) (argument : String) : Action Workspace Material :=
  match r with
  | publicKey => .publicKey <$> resolvePublicKey argument
  | privateKey => .privateKey <$> resolvePrivateKey argument
  | commitment => .commitment <$> resolveCommitment argument
  | params => .params <$> resolveParams argument

theorem grows (r : Resolver) (argument : String) : Workspace.Grows (r.resolve argument) := by
  intro w
  cases r with
  | publicKey => exact (grows_resolvePublicKey argument w).map _
  | privateKey => exact (grows_resolvePrivateKey argument w).map _
  | commitment => exact (grows_resolveCommitment argument w).map _
  | params => exact (grows_resolveParams argument w).map _

theorem settles (r : Resolver) (argument : String) : Settles (r.resolve argument) := by
  cases r with
  | publicKey => exact (settles_resolvePublicKey argument).map _
  | privateKey => exact (settles_resolvePrivateKey argument).map _
  | commitment => exact (settles_resolveCommitment argument).map _
  | params => exact (settles_resolveParams argument).map _

end Resolver

namespace Client

/-- What a client may be asked to do. -/
inductive Task where
  | occurrence (o : Occurrence)
  | resolve (r : Resolver) (argument : String)
  | check (a : CheckAccount)
  | request (metrics : Metrics) (now : String) (r : HttpRequest)
  | command (surroundings : CommandLine.Surroundings) (config : Config)
      (c : CommandLine.Command)

def workspace (c : Client) : Workspace := c.ledger.workspace

def resolve (r : Resolver) (argument : String) : Action Client Material :=
  onLedger (Ledger.inWorkspace (r.resolve argument))

def perform (c : Client) : Task → Client
  | .occurrence o => { c with ledger := c.ledger.after o }
  | .resolve r argument => ((resolve r argument).exec c).2
  | .check a => ((checkAccount a).exec c).2
  | .request metrics now r => (Server.handle now r ⟨c, metrics⟩).2.client
  | .command surroundings config command =>
    ((command.run surroundings config).run.run ⟨c, []⟩).2.client

def performAll (c : Client) (ts : List Task) : Client := ts.foldl perform c

theorem extends_perform (c : Client) (t : Task) :
    c.workspace.Extends (c.perform t).workspace := by
  cases t with
  | occurrence o => exact Ledger.extends_after c.ledger o
  | resolve r argument => exact grows_inWorkspace (r.grows argument) c.workspace c (.refl _)
  | check a => exact grows_checkAccount a c.workspace c (.refl _)
  | request metrics now r => exact Server.extends_of_handle now r ⟨c, metrics⟩
  | command surroundings config command =>
    exact CommandLine.Script.grows_command surroundings config command c.workspace ⟨c, []⟩
      (.refl _)

theorem extends_performAll (c : Client) (ts : List Task) :
    c.workspace.Extends (c.performAll ts).workspace := by
  induction ts generalizing c with
  | nil => exact .refl _
  | cons t ts ih => exact (c.extends_perform t).trans (ih (c.perform t))

variable {c c' : Client} {r : Resolver} {argument : String} {found : Material}

theorem exec_resolve (r : Resolver) (argument : String) (c : Client) :
    (resolve r argument).exec c = (((r.resolve argument).exec c.workspace).1,
      { c with ledger := { c.ledger with
          workspace := ((r.resolve argument).exec c.workspace).2 } }) := rfl

theorem resolve_of_workspace
    (h : (r.resolve argument).exec c.workspace = (.ok found, c.workspace)) :
    (resolve r argument).exec c = (.ok found, c) := by
  rw [exec_resolve, h]
  rfl

theorem workspace_of_resolve (h : (resolve r argument).exec c = (.ok found, c')) :
    (r.resolve argument).exec c.workspace = (.ok found, c'.workspace) := by
  rw [exec_resolve] at h
  obtain ⟨hfound, hafter⟩ := Prod.ext_iff.1 h
  exact Prod.ext hfound (congrArg workspace hafter)

/-- What is found in a workspace is found by a client whose workspace has more files. -/
theorem resolve_performAll
    (h : (r.resolve argument).exec c.workspace = (.ok found, c.workspace)) (ts : List Task) :
    (resolve r argument).exec (c.performAll ts) = (.ok found, c.performAll ts) :=
  resolve_of_workspace (r.settles argument _ _ _ _ h (c.extends_performAll ts))

/-- Whatever a client is asked to do, no file that there was is changed, and what was resolved
once is found again without a draw or a write. A key that a missing file was created with is
found there whole, and parameters that a missing file was created with are found there with the
trapdoor of their hash key. -/
theorem material_of_run (c : Client) (ts : List Task) :
    c.workspace.files.Extends (c.performAll ts).workspace.files ∧
      (∀ r argument found c', (resolve r argument).exec c = (.ok found, c') →
        (resolve r argument).exec (c'.performAll ts) = (.ok found, c'.performAll ts)) ∧
      ∀ argument c', isFileReference (Text.trim argument) = true →
        c.workspace.files.contains (Text.trim argument) = false →
        (∀ found, (resolve .publicKey argument).exec c = (.ok (.publicKey found), c') →
          ∃ key : PrivateKey, found = some key.publicKey ∧
            (resolve .privateKey argument).exec (c'.performAll ts) =
              (.ok (.privateKey (some key)), c'.performAll ts)) ∧
        ∀ found, (resolve .params argument).exec c = (.ok (.params found), c') →
          ∃ params d tk, found = some params ∧ params.decode = .ok d ∧ d.tk = some tk ∧ tk ≠ 0 ∧
            Bn254.smul tk d.g = d.hk ∧
            (resolve .params argument).exec (c'.performAll ts) =
              (.ok (.params (some params)), c'.performAll ts) := by
  have hagain : ∀ r argument found c', (resolve r argument).exec c = (.ok found, c') →
      (resolve r argument).exec (c'.performAll ts) = (.ok found, c'.performAll ts) := by
    intro r argument found c' h
    exact resolve_performAll (r.settles argument _ _ _ _ (workspace_of_resolve h) (.refl _)) ts
  refine ⟨c.extends_performAll ts, hagain,
    fun argument c' hfile habsent => ⟨fun found h => ?_, fun found h => ?_⟩⟩
  · obtain ⟨found, hkey, he⟩ := exec_map_ok (workspace_of_resolve h)
    cases he
    obtain ⟨key, rfl, hwhole⟩ := privateKey_of_created hfile habsent hkey
    refine ⟨key, rfl, resolve_performAll ?_ ts⟩
    rw [Resolver.resolve, exec_map, hwhole]
    rfl
  · obtain ⟨found, hparams, he⟩ := exec_map_ok (workspace_of_resolve h)
    cases he
    obtain ⟨params, rfl, hdrawn⟩ := isDrawn_of_created hfile habsent hparams
    obtain ⟨d, tk, hdecode, hsome, hne, hmul⟩ := hdrawn.decode
    exact ⟨params, d, tk, rfl, hdecode, hsome, hne, hmul, hagain _ _ _ _ h⟩

def fresh : Client := ⟨.empty, .fresh, .unreachable .endedInHeader, 0, none⟩

/-- A client that created a key and one that created parameters find them again after a
preparation. -/
theorem material_of_fresh :
    (∃ key : PrivateKey, ((resolve .publicKey "new.txt").exec fresh).1 =
      .ok (.publicKey (some key.publicKey)) ∧
      ((resolve .privateKey "new.txt").exec
        (((resolve .publicKey "new.txt").exec fresh).2.performAll
          [.occurrence Ledger.baseConfig])).1 = .ok (.privateKey (some key))) ∧
    ∃ params d tk, ((resolve .params "new.txt").exec fresh).1 = .ok (.params (some params)) ∧
      params.decode = .ok d ∧ d.tk = some tk ∧ tk ≠ 0 ∧ Bn254.smul tk d.g = d.hk ∧
      ((resolve .params "new.txt").exec
        (((resolve .params "new.txt").exec fresh).2.performAll
          [.occurrence Ledger.baseConfig])).1 = .ok (.params (some params)) := by
  have hnew : fresh.workspace.Creates "new.txt" := creates_empty
  constructor
  · obtain ⟨found, w', hkey, _⟩ := exists_resolvePublicKey hnew
    have hfirst : ((resolve .publicKey "new.txt").exec fresh).1 =
        .ok (.publicKey (some found)) := by
      rw [exec_resolve, Resolver.resolve, exec_map, hkey]
      rfl
    obtain ⟨_, _, hcreated⟩ := material_of_run fresh [.occurrence Ledger.baseConfig]
    obtain ⟨key, hsome, hagain⟩ :=
      (hcreated "new.txt" _ hnew.isFile hnew.absent).1 _ (Prod.ext hfirst rfl)
    cases hsome
    exact ⟨key, hfirst, by rw [hagain]⟩
  · obtain ⟨found, w', hparams⟩ := exists_resolveParams hnew
    have hfirst : ((resolve .params "new.txt").exec fresh).1 = .ok (.params (some found)) := by
      rw [exec_resolve, Resolver.resolve, exec_map, hparams]
      rfl
    obtain ⟨_, _, hcreated⟩ := material_of_run fresh [.occurrence Ledger.baseConfig]
    obtain ⟨params, d, tk, hsome, hdecode, htk, hne, hmul, hagain⟩ :=
      (hcreated "new.txt" _ hnew.isFile hnew.absent).2 _ (Prod.ext hfirst rfl)
    cases hsome
    exact ⟨found, d, tk, hfirst, hdecode, htk, hne, hmul, by rw [hagain]⟩

end Client

end RedactableLedger
