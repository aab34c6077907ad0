import RedactableLedger.Proofs.CommandLine.Staging

namespace RedactableLedger

open RedactableLedger.Action

/-- The check of a change of a known setting does not depend on the setting. -/
theorem ChangeConfig.validate_of_known {a : ChangeConfig}
    (h : (ConfigOption.ofId? a.option).isSome = true) :
    a.validate = requirePositiveFee a.fee >>= fun _ =>
      requireText a.rootWallet "rootwallet" := by
  rw [validate, Option.isNone_eq_false_iff.2 h]
  cases requirePositiveFee a.fee with
  | error e => rfl
  | ok _ => cases requireText a.rootWallet "rootwallet" <;> rfl

namespace Workspace

theorem exec_resolvePrivateKey_zero (w : Workspace) :
    (resolvePrivateKey "0").exec w = (.error (.decoding (.privateKeyFields 1)), w) := by
  have htrim : Text.trim "0" = "0" := by decide
  have hread : privateKeyOfText "0" = .error (.privateKeyFields 1) := by decide
  have hfile : isFileReference "0" = false := by decide
  rw [resolvePrivateKey, resolveWith, htrim, hread, hfile]
  rfl

end Workspace

namespace CommandLine

/-- The changes that a command asks for name one root key and pass or fail their checks
together. -/
def StagingRequest.IsUniform : StagingRequest → Prop
  | single _ => True
  | changes requests =>
    ∀ a ∈ requests, ∀ b ∈ requests, a.rootWallet = b.rootWallet ∧ a.validate = b.validate

namespace Invocation

theorem isUniform_changeConfigs (r : Reading) :
    (StagingRequest.changes (changeConfigs r)).IsUniform := by
  have hchange : ∀ a ∈ changeConfigs r, a.rootWallet = r.text "root-wallet" ∧
      a.validate = requirePositiveFee (fee r) >>= fun _ =>
      requireText (r.text "root-wallet") "rootwallet" := by
    intro a ha
    obtain ⟨o, _, ho⟩ := List.mem_filterMap.1 ha
    obtain ⟨n, _, rfl⟩ := Option.map_eq_some_iff.1 ho
    exact ⟨rfl, ChangeConfig.validate_of_known (by cases o <;> rfl)⟩
  intro a ha b hb
  obtain ⟨hroot, hvalid⟩ := hchange a ha
  obtain ⟨hroot', hvalid'⟩ := hchange b hb
  exact ⟨hroot.trans hroot'.symm, hvalid.trans hvalid'.symm⟩

theorem isUniform_of_commandOf {r : Reading} {request : StagingRequest}
    {signWith : Option String} (h : commandOf r = .ok (.stage request signWith)) :
    request.IsUniform := by
  rw [commandOf] at h
  split at h <;> cases h
  case h_5 => exact isUniform_changeConfigs r
  all_goals exact trivial

theorem isUniform_of_ofArguments {environment : Environment} {arguments : List String}
    {i : Invocation} {request : StagingRequest} {signWith : Option String}
    (h : ofArguments environment arguments = .ok i)
    (hcommand : i.command = .stage request signWith) : request.IsUniform := by
  obtain ⟨r, _, h⟩ := bind_eq_ok.1 h
  obtain ⟨command, hread, h⟩ := bind_eq_ok.1 h
  cases h
  cases hcommand
  exact isUniform_of_commandOf hread

end Invocation

theorem StagingRequest.takesKey {request : StagingRequest} {p : Preparation}
    (h : p ∈ request.preparations) :
    p.TakesKey request.cosigner := by
  cases request with
  | changes requests => rintro ⟨⟩
  | single q =>
    cases List.mem_singleton.1 h
    cases p with
    | transferFunds a => exact fun _ => ⟨a, rfl⟩
    | _ => rintro ⟨⟩

namespace Script

variable {s t : Session} {f : RunFault} {request : StagingRequest} {signWith : Option String}

/-- A command that stages transactions stops for what was given only at the first of them. -/
theorem stops_of_stage (huniform : request.IsUniform)
    (hfits : ∀ p ∈ request.preparations, p.Fits)
    (h : (stage request signWith).run.run s = (.error f, t)) (hf : f.IsOfArguments) :
    ∃ first rest, request.preparations = first :: rest ∧
      Stops first signWith request.cosigner s f t := by
  rw [stage] at h
  cases hrequest : request.preparations with
  | nil =>
    rw [hrequest] at h
    cases h
    obtain ⟨e, he, _⟩ := hf
    cases he
  | cons first rest =>
    have hmem : first ∈ request.preparations := hrequest ▸ List.mem_cons_self
    rw [hrequest] at h
    obtain hfirst | ⟨_, u, hfirst, hrest⟩ := error_of_bind h
    · exact ⟨first, rest, rfl, stops_of_stageOne (hfits first hmem)
        (request.takesKey hmem) hfirst hf⟩
    -- after the first transaction nothing is left, or changes that its success speaks for
    exfalso
    cases request with
    | single p =>
      cases hrequest
      cases hrest
    | changes requests =>
      cases requests with
      | nil => cases hrequest
      | cons a others =>
        cases hrequest
        obtain ⟨hvalid, hkeys⟩ := resolves_of_stageOne hfirst
        refine stageAll_never_stops (fun b hb => ?_) hkeys hrest hf
        obtain ⟨hroot, hcheck⟩ := huniform b (List.mem_cons_of_mem a hb) a List.mem_cons_self
        exact ⟨hcheck.trans hvalid, hroot⟩

end Script

namespace Machine

variable {m : Machine} {path other : Path} {files : Files} {store : Store}

theorem storeAt_close_self : (m.close path files store).storeAt path = store := by
  rw [storeAt, close, List.lookup_cons_self]
  rfl

theorem storeAt_close_of_ne (h : other ≠ path) :
    (m.close path files store).storeAt other = m.storeAt other := by
  have hfilter : ∀ stores : List (Path × Store), (stores.filter (·.1 ≠ path)).lookup other =
      stores.lookup other := by
    intro stores
    induction stores with
    | nil => rfl
    | cons entry stores ih =>
      rw [List.filter_cons]
      split
      · rw [List.lookup_cons, List.lookup_cons, ih]
      · rename_i hpath
        have hne : (other == entry.1) = false := by
          simp only [ne_eq, decide_eq_true_eq, not_not] at hpath
          rw [hpath]
          exact beq_false_of_ne h
        rw [List.lookup_cons, hne, ih]
  have hne : (other == path) = false := beq_false_of_ne h
  rw [storeAt, storeAt, close, List.lookup_cons, hne]
  exact congrArg (·.getD Store.empty) (hfilter m.stores)

theorem storeAt_of_openStore {m₁ : Machine} {opened : Except StoreDirectory.Fault Path}
    {reference : String} (h : m.openStore reference = (opened, m₁)) (path : Path) :
    m₁.storeAt path = m.storeAt path := by
  have hstores : m₁.stores = m.stores := (congrArg (·.2.stores) h).symm
  rw [storeAt, hstores, storeAt]

end Machine

/-- What a command leaves that stages transactions and fails for what was given to it. -/
inductive Remains (s : Surroundings) (i : Invocation) (request : StagingRequest)
    (signWith : Option String) (draws : Draws) (m : Machine) :
    List String → RunFault → Machine → Prop
  | untouched (hstores : ∀ path, m'.storeAt path = m.storeAt path) :
      Remains s i request signWith draws m printed f m'
  /-- The first transaction was prepared when the keys to sign with were not resolved, and
  nothing was printed. -/
  | prepared {p : Prepared} {l : Ledger} {e : Fault}
      (hsettings : i.settings.resolve m.files = .ok config)
      (hopen : m.openStore config.store = (.ok path, m₁))
      (hrequest : request.preparations = first :: rest) (hkey : signWith = some key)
      (hrun : first.run.exec (s.client config ⟨m₁.files, draws⟩ (m.storeAt path)).ledger =
        (.ok p, l))
      (hrefuses : l.workspace.RefusesKeys key request.cosigner e)
      (hstore : m'.storeAt path = l.store)
      (hothers : ∀ other, other ≠ path → m'.storeAt other = m.storeAt other)
      (hleaves : (Operation.prepare first).Leaves (m.storeAt path) (.prepared p) records)
      (hupdates : (m.storeAt path).Updates (m'.storeAt path) records) :
      Remains s i request signWith draws m [] (.fault e) m'

variable {s : Surroundings} {arguments : List String} {draws : Draws} {m m' : Machine}
  {i : Invocation} {request : StagingRequest} {signWith : Option String}
  {warnings printed : List String} {f : RunFault}

theorem run_of_read (hread : Invocation.ofArguments s.environment arguments = .ok i)
    (draws : Draws) (m : Machine) :
    (run s arguments draws).run m = i.run s draws m := by
  rw [run, hread]
  rfl

/-- A run that fails leaves the stores alone, or carries a command out that fails, and closes
its store as it is then. -/
theorem script_of_failure (h : i.run s draws m = (.finished warnings printed (some f), m')) :
    (∀ path, m'.storeAt path = m.storeAt path) ∨
      ∃ config path m₁ t, i.settings.resolve m.files = .ok config ∧
        m.openStore config.store = (.ok path, m₁) ∧
        (i.command.run s config).run.run
          ⟨s.client config ⟨m₁.files, draws⟩ (m.storeAt path), []⟩ = (.error f, t) ∧
        printed = t.printed ∧ m' = m₁.close path t.ledger.workspace.files t.ledger.store := by
  unfold Invocation.run at h
  cases hsettings : i.settings.resolve m.files with
  | error e =>
    rw [hsettings] at h
    cases h
    exact .inl fun _ => rfl
  | ok config =>
    obtain ⟨opened, m₁, hopen⟩ : ∃ opened m₁, m.openStore config.store = (opened, m₁) :=
      ⟨_, _, rfl⟩
    rw [hsettings] at h
    dsimp only at h
    rw [hopen] at h
    cases opened with
    | error e =>
      cases h
      exact .inl (Machine.storeAt_of_openStore hopen)
    | ok path =>
      obtain ⟨r, t, hscript⟩ : ∃ r t, (i.command.run s config).run.run
          ⟨s.client config ⟨m₁.files, draws⟩ (m.storeAt path), []⟩ = (r, t) := ⟨_, _, rfl⟩
      dsimp only at h
      rw [Machine.storeAt_of_openStore hopen, hscript] at h
      cases r with
      | ok _ => cases h
      | error fault =>
        cases h
        exact .inr ⟨config, path, m₁, t, rfl, hopen, hscript, rfl, rfl⟩

/-- A command that fails for what was given to it leaves every store as it was, or the keys to
sign with were not resolved when the first of its transactions had been prepared, which remains
together with what it redacted. -/
theorem remains_of_failure (hread : Invocation.ofArguments s.environment arguments = .ok i)
    (hcommand : i.command = .stage request signWith)
    (hfits : ∀ p ∈ request.preparations, p.Fits)
    (hrun : (run s arguments draws).run m = (.finished warnings printed (some f), m'))
    (hf : f.IsOfArguments) :
    Remains s i request signWith draws m printed f m' := by
  rw [run_of_read hread] at hrun
  obtain hstores | ⟨config, path, m₁, t, hsettings, hopen, hscript, rfl, rfl⟩ :=
    script_of_failure hrun
  · exact .untouched hstores
  rw [hcommand] at hscript
  have huniform := Invocation.isUniform_of_ofArguments hread hcommand
  obtain ⟨first, rest, hrequest, hstops⟩ := Script.stops_of_stage huniform hfits hscript hf
  have hothers : ∀ files store other, other ≠ path →
      (m₁.close path files store).storeAt other = m.storeAt other := by
    intro files store other hne
    rw [Machine.storeAt_close_of_ne hne, Machine.storeAt_of_openStore hopen]
  cases hstops with
  | preparation hprepare =>
    refine .untouched fun other => ?_
    by_cases hother : other = path
    · rw [hother, Machine.storeAt_close_self]
      exact Ledger.store_of_prepare_error hprepare
    · exact hothers _ _ other hother
  | keys hprepare hkey hrefuses =>
    have hfirst : first.Fits := hfits first (hrequest ▸ List.mem_cons_self)
    obtain ⟨records, hleaves, hupdates⟩ := Ledger.leaves_of_prepare hfirst hprepare
    refine .prepared hsettings hopen hrequest hkey hprepare hrefuses Machine.storeAt_close_self
      (hothers _ _) hleaves ?_
    rw [Machine.storeAt_close_self]
    exact hupdates

/-- A command whose key is not resolved when its first transaction was prepared fails, and
leaves the transaction. -/
theorem run_of_refused {m₁ : Machine} {config : Config} {path : Path} {first : Preparation}
    {rest : List Preparation} {key : String} {p : Prepared} {l : Ledger} {e : Fault}
    (hsettings : i.settings.resolve m.files = .ok config)
    (hopen : m.openStore config.store = (.ok path, m₁))
    (hcommand : i.command = .stage request (some key))
    (hrequest : request.preparations = first :: rest)
    (hrun : first.run.exec (s.client config ⟨m₁.files, draws⟩ (m.storeAt path)).ledger =
      (.ok p, l)) (hkey : ((resolvePrivateKey key).exec l.workspace).1 = .error e) :
    i.run s draws m = (.finished (i.settings.warnings s.environment) [] (some (.fault e)),
      m₁.close path l.workspace.files l.store) := by
  have hscript :=
    Script.run_stage_of_refused (s := ⟨s.client config ⟨m₁.files, draws⟩ (m.storeAt path), []⟩)
    hrequest hrun hkey
  have hstage : (Command.stage request (some key)).run s config =
      Script.stage request (some key) := rfl
  unfold Invocation.run
  rw [hsettings]
  dsimp only
  rw [hopen]
  dsimp only
  rw [Machine.storeAt_of_openStore hopen, hcommand, hstage, hscript]
  rfl

def Surroundings.offline : Surroundings := ⟨[], fun _ => .error .endedInHeader, [], "", []⟩

def change : ChangeConfig := Ledger.configRequest baseKey .blockInterval 5 1

/-- The command for the change, with a key to sign with that is none. -/
def badlySigned : List String :=
  ["network", "--root-wallet", baseKey.text, "--set-block-interval", "5", "--sign-with", "0"]

theorem ofArguments_badlySigned : ∃ i, Invocation.ofArguments [] badlySigned = .ok i ∧
    i.settings = ⟨none, none, none, Invocation.defaultLogLevel, .pretty⟩ ∧
    i.command = .stage (.changes [change]) (some "0") := by
  have h : (Invocation.ofArguments [] badlySigned).toOption =
      some ⟨⟨none, none, none, Invocation.defaultLogLevel, .pretty⟩,
        .stage (.changes [change]) (some "0")⟩ := by
    decide +kernel
  cases hread : Invocation.ofArguments [] badlySigned with
  | error e =>
    rw [hread] at h
    cases h
  | ok i =>
    rw [hread] at h
    cases h
    exact ⟨_, rfl, rfl, rfl⟩

theorem splitOn_records : "client.db".splitOn "/" = ["client.db"] ∧
    "client.db/blobs".splitOn "/" = ["client.db", "blobs"] ∧
    "client.db/conf".splitOn "/" = ["client.db", "conf"] ∧
      "client.db/db".splitOn "/" = ["client.db", "db"] := by
  simp +decide [String.splitOn, String.splitOnAux]

def opened : Files :=
  ⟨[], [(["client.db", "db"], .file StoreDirectory.recordsContent Files.defaultMode),
    (["client.db", "conf"], .file StoreDirectory.settingsContent Files.defaultMode),
    (["client.db", "blobs"], .directory), (["client.db"], .directory)]⟩

theorem openAt_empty : StoreDirectory.openAt .empty "client.db" =
    (.ok ["client.db"], opened) := by
  obtain ⟨hstore, hblobs, hconf, hdb⟩ := splitOn_records
  have hentries : StoreDirectory.entry "client.db" StoreDirectory.longRecords =
      "client.db/blobs" ∧
      StoreDirectory.entry "client.db" StoreDirectory.settings = "client.db/conf" ∧
      StoreDirectory.entry "client.db" StoreDirectory.records = "client.db/db" := by
    decide
  have hmake : Files.makeDirectory .empty "client.db/blobs" =
      (.ok (), ⟨[], [(["client.db", "blobs"], .directory), (["client.db"], .directory)]⟩) := by
    simp only [Files.makeDirectory, Files.contains, Files.locate, Files.names, hblobs]
    decide +kernel
  have hsettings : StoreDirectory.openSettings
      ⟨[], [(["client.db", "blobs"], .directory), (["client.db"], .directory)]⟩ "client.db" =
        .ok ⟨[],
          [(["client.db", "conf"], .file StoreDirectory.settingsContent Files.defaultMode),
            (["client.db", "blobs"], .directory), (["client.db"], .directory)]⟩ := by
    simp only [StoreDirectory.openSettings, hentries, Files.read, Files.write, Files.locate,
      Files.names, hconf]
    decide +kernel
  have hrecords : StoreDirectory.openRecords
      ⟨[], [(["client.db", "conf"], .file StoreDirectory.settingsContent Files.defaultMode),
        (["client.db", "blobs"], .directory), (["client.db"], .directory)]⟩ "client.db" =
        .ok opened := by
    simp only [StoreDirectory.openRecords, hentries, Files.read, Files.write, Files.locate,
      Files.names, hdb, hblobs]
    decide +kernel
  simp only [StoreDirectory.openAt, hentries, hmake, hsettings, hrecords, Files.names, hstore]
  decide +kernel

theorem run_badlySigned (draws : Draws) :
    ∃ i warnings m, Invocation.ofArguments [] badlySigned = .ok i ∧
    i.command = .stage (.changes [change]) (some "0") ∧
    (run .offline badlySigned draws).run ⟨.empty, []⟩ =
      (.finished warnings [] (some (.fault (.decoding (.privateKeyFields 1)))), m) ∧
    m.storeAt ["client.db"] = Store.empty.put change.record.contentHash change.record := by
  obtain ⟨i, hread, hsettings, hcommand⟩ := ofArguments_badlySigned
  have hresolved : i.settings.resolve .empty = .ok {} := by
    rw [hsettings]
    rfl
  have hopen : (⟨.empty, []⟩ : Machine).openStore "client.db" =
      (.ok ["client.db"], ⟨opened, []⟩) := by
    rw [Machine.openStore, openAt_empty]
  have hvalid : change.validate = .ok () := by
    decide +kernel
  have hroot : ∀ w, (resolvePublicKey change.rootWallet).exec w = (.ok (some baseKey), w) :=
    resolvePublicKey_text baseKey_isReadable
  have hkey : ∀ w, ((resolvePrivateKey "0").exec w).1 =
      .error (.decoding (.privateKeyFields 1)) :=
    fun w => congrArg Prod.fst (Workspace.exec_resolvePrivateKey_zero w)
  -- the hash of the record is never computed
  generalize change = a at hcommand hvalid hroot ⊢
  have hrun : i.run .offline draws ⟨.empty, []⟩ = _ :=
    run_of_refused hresolved hopen hcommand rfl (Ledger.exec_run_config hvalid (hroot _))
      (hkey _)
  exact ⟨i, _, _, hread, hcommand, (run_of_read (s := .offline) hread _ _).trans hrun,
    Machine.storeAt_close_self⟩

/-- A change is staged by a command that is refused for the key to sign with, and its hash is
not printed. -/
theorem staged_by_refused_command : ∃ warnings m,
    (run .offline badlySigned .none).run ⟨.empty, []⟩ =
      (.finished warnings [] (some (.fault (.decoding (.privateKeyFields 1)))), m) ∧
    ((⟨.empty, []⟩ : Machine).storeAt ["client.db"]).get change.record.contentHash = .ok none ∧
    (m.storeAt ["client.db"]).get change.record.contentHash = .ok (some change.record) := by
  obtain ⟨_, warnings, m, _, _, hrun, hstore⟩ := run_badlySigned .none
  refine ⟨warnings, m, hrun, rfl, ?_⟩
  rw [hstore]
  exact Store.get_put_self _ _ ⟨show Layout.Fits [] by decide, trivial⟩

theorem remains_of_badlySigned : ∃ i warnings m,
    Invocation.ofArguments [] badlySigned = .ok i ∧
      i.command = .stage (.changes [change]) (some "0") ∧
    (run .offline badlySigned .none).run ⟨.empty, []⟩ =
      (.finished warnings [] (some (.fault (.decoding (.privateKeyFields 1)))), m) ∧
    Remains .offline i (.changes [change]) (some "0") .none ⟨.empty, []⟩ []
      (.fault (.decoding (.privateKeyFields 1))) m := by
  obtain ⟨i, warnings, m, hread, hcommand, hrun, _⟩ := run_badlySigned .none
  refine ⟨i, warnings, m, hread, hcommand, hrun, ?_⟩
  have hfits : ∀ p ∈ (StagingRequest.changes [change]).preparations, p.Fits := by
    intro p hp
    cases List.mem_singleton.1 hp
    rintro _ ⟨⟩
  exact remains_of_failure hread hcommand hfits hrun ⟨_, rfl, .inr (.inl rfl)⟩

end CommandLine

end RedactableLedger
