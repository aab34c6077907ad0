import RedactableLedger.Proofs.Files
import RedactableLedger.Proofs.Generated
import RedactableLedger.Proofs.Lifecycle.Frame

namespace RedactableLedger

open RedactableLedger.Action

namespace Text

theorem fieldsAux_line {f : List Char} (hf : IsField f) (rest : List Char) :
    fieldsAux [] (f ++ '\n' :: rest) = f :: fieldsAux [] rest := by
  have hne : f.reverse ≠ [] := fun he => hf.nonempty (List.reverse_eq_nil_iff.1 he)
  rw [fieldsAux_append [] hf.blank, List.append_nil]
  conv => rhs; rw [← List.reverse_reverse f]
  generalize f.reverse = r at hne ⊢
  cases r with
  | nil => exact absurd rfl hne
  | cons c cs => rfl

end Text

namespace Workspace

theorem toList_fieldLines {fs : List String} (h : fs ≠ []) :
    (fieldLines fs).toList = fs.flatMap fun f => f.toList ++ ['\n'] := by
  induction fs with
  | nil => exact absurd rfl h
  | cons f fs ih =>
    cases fs with
    | nil =>
      rw [fieldLines, String.intercalate_singleton, String.toList_append, List.flatMap_cons,
        List.flatMap_nil, List.append_nil]
      rfl
    | cons g fs =>
      have hrest := ih (List.cons_ne_nil g fs)
      rw [fieldLines, String.toList_append] at hrest
      rw [fieldLines, String.intercalate_cons_cons, String.toList_append, String.toList_append,
        List.append_assoc, hrest, String.toList_append, List.flatMap_cons]
      rfl

theorem fields_fieldLines {fs : List String} (hne : fs ≠ [])
    (h : ∀ f ∈ fs, Text.IsField f.toList) :
    Text.fields (fieldLines fs) = fs := by
  have hfields : ∀ fs : List String, (∀ f ∈ fs, Text.IsField f.toList) →
      Text.fieldsAux [] (fs.flatMap fun f => f.toList ++ ['\n']) = fs.map String.toList := by
    intro fs h
    induction fs with
    | nil => rfl
    | cons f fs ih =>
      rw [List.flatMap_cons, List.append_assoc, List.singleton_append,
        Text.fieldsAux_line (h f (.head _)), ih fun g hg => h g (.tail _ hg), List.map_cons]
  rw [Text.fields, toList_fieldLines hne, hfields fs h, List.map_map]
  conv => rhs; rw [← List.map_id fs]
  apply List.map_congr_left
  intro f _
  exact String.ofList_toList

def Extends (w w' : Workspace) : Prop := w.files.Extends w'.files

theorem Extends.refl (w : Workspace) : w.Extends w := Files.Extends.refl _

variable {w w' w'' : Workspace} {reference argument : String}

theorem Extends.trans (h : w.Extends w') (h' : w'.Extends w'') :
    w.Extends w'' := Files.Extends.trans h h'

def Grows (a : Action Workspace α) : Prop := ∀ w : Workspace, Preserves w.Extends a

def Settles (a : Action Workspace α) : Prop :=
  ∀ w w' w'' x, a.exec w = (.ok x, w') → w'.Extends w'' → a.exec w'' = (.ok x, w'')

theorem Settles.lift (r : Outcome α) : Settles (lift r) := by
  intro w w' w'' x h _
  cases h
  rfl

theorem Settles.throw (e : Fault) : Settles (throw e : Action Workspace α) := by
  intro w w' w'' x h _
  cases h

theorem Settles.bind {a : Action Workspace α} {f : α → Action Workspace β} (ha : Settles a)
    (hf : ∀ x, Settles (f x)) (hgrows : ∀ x, Grows (f x)) : Settles (a >>= f) := by
  intro w w' w'' y h hext
  obtain ⟨r, w₁, hexec⟩ : ∃ r w₁, a.exec w = (r, w₁) := ⟨_, _, rfl⟩
  cases r with
  | error e =>
    rw [exec_bind_error hexec] at h
    cases h
  | ok x =>
    rw [exec_bind_ok hexec] at h
    -- what the first part left is still there after the second, which only adds files
    have hext₁ : w₁.Extends w' := by
      have hsecond := hgrows x w₁ w₁ (.refl _)
      rwa [h] at hsecond
    rw [exec_bind_ok (ha w w₁ w'' x hexec (hext₁.trans hext))]
    exact hf x w₁ w' w'' y h hext

theorem Settles.map (f : α → β) {a : Action Workspace α} (ha : Settles a) :
    Settles (f <$> a) := by
  intro w w' w'' y h hext
  obtain ⟨x, hexec, rfl⟩ := exec_map_ok h
  rw [exec_map, ha w w' w'' x hexec hext]
  rfl

theorem settles_readFields (reference : String) : Settles (readFields reference) := by
  intro w w' w'' x h hext
  simp only [readFields, exec_query] at h ⊢
  cases hread : w.files.readText reference with
  | error e =>
    rw [hread] at h
    cases h
  | ok text =>
    rw [hread] at h
    cases h
    rw [Files.Extends.readText hext hread]

theorem grows_readFields (reference : String) :
    Grows (readFields reference) := fun _ => .query _

theorem settles_privateKeyInFile (reference : String) :
    Settles (privateKeyInFile reference) := by
  apply (settles_readFields reference).bind
  · intro fields
    split
    · exact .lift _
    · exact .throw _
  · intro fields w
    split
    · exact .lift _
    · exact .throw _

theorem grows_privateKeyInFile (reference : String) : Grows (privateKeyInFile reference) := by
  intro w
  apply (grows_readFields reference w).bind
  intro fields
  split
  · exact .lift _
  · exact .throw _

theorem settles_publicKeyInFile (reference : String) : Settles (publicKeyInFile reference) := by
  apply (settles_readFields reference).bind
  · intro fields
    split
    · exact .lift _
    · exact .lift _
    · exact .throw _
  · intro fields w
    split
    · exact .lift _
    · exact .lift _
    · exact .throw _

theorem grows_publicKeyInFile (reference : String) : Grows (publicKeyInFile reference) := by
  intro w
  apply (grows_readFields reference w).bind
  intro fields
  split
  · exact .lift _
  · exact .lift _
  · exact .throw _

theorem settles_paramsInFile (reference : String) : Settles (paramsInFile reference) :=
  (settles_readFields reference).bind (fun _ => .lift _) fun _ _ => .lift _

theorem grows_paramsInFile (reference : String) : Grows (paramsInFile reference) := fun w =>
  (grows_readFields reference w).bind fun _ => .lift _

def create (generate : StateM Draws α) (fields : α → List String) (reference : String) :
    Action Workspace α := do
  let x ← draw generate
  writeFields reference (fields x)
  return x

theorem createKey_eq (reference : String) :
    createKey reference = create PrivateKey.generate PrivateKey.toFields reference := rfl

theorem createParams_eq (reference : String) :
    createParams reference =
      create ChameleonParams.generate ChameleonParams.toFields reference := rfl

theorem exec_writeFields (reference : String) (fields : List String) (w : Workspace) :
    (writeFields reference fields).exec w =
      match w.files.write reference (Bytes.ofText (fieldLines fields))
        (some Files.secretMode) with
      | .ok files => (.ok (), { w with files })
      | .error e => (.error (fileFault reference (.access e)), w) := rfl

variable {generate : StateM Draws α} {fields : α → List String}

/-- Creating draws, and writes the file or leaves the files alone. -/
theorem exec_create (generate : StateM Draws α) (fields : α → List String) (reference : String)
    (w : Workspace) :
    (create generate fields reference).exec w =
      match w.files.write reference
        (Bytes.ofText (fieldLines (fields (generate.run w.draws).1)))
        (some Files.secretMode) with
      | .ok files => (.ok (generate.run w.draws).1, ⟨files, (generate.run w.draws).2⟩)
      | .error e =>
        (.error (fileFault reference (.access e)), ⟨w.files, (generate.run w.draws).2⟩) := by
  have hdraw : (draw generate).exec w =
      (.ok (generate.run w.draws).1, ⟨w.files, (generate.run w.draws).2⟩) := rfl
  rw [create, exec_bind_ok hdraw, exec_bind, exec_writeFields]
  dsimp only
  generalize hwrite : w.files.write reference
    (Bytes.ofText (fieldLines (fields (generate.run w.draws).1)))
    (some Files.secretMode) = written
  cases written with
  | ok files => rfl
  | error e => rfl

theorem exists_create (generate : StateM Draws α) (fields : α → List String)
    (h : ∀ content, ∃ files, w.files.write reference content (some Files.secretMode) =
      .ok files) :
    ∃ x w', (create generate fields reference).exec w = (.ok x, w') := by
  obtain ⟨files, hwrite⟩ := h (Bytes.ofText (fieldLines (fields (generate.run w.draws).1)))
  rw [exec_create, hwrite]
  exact ⟨_, _, rfl⟩

theorem extends_create (habsent : w.files.contains reference = false) :
    w.Extends ((create generate fields reference).exec w).2 := by
  rw [exec_create]
  split
  · rename_i hwrite
    exact Files.extends_write habsent hwrite
  · exact .refl _

/-- What was created was drawn, and stands in the file as it was written. -/
theorem readFields_of_create {x : α} (habsent : w.files.contains reference = false)
    (h : (create generate fields reference).exec w = (.ok x, w'))
    (hfields : Text.fields (fieldLines (fields x)) = fields x) :
    (∃ d, (generate.run d).1 = x) ∧ w'.files.contains reference = true ∧
      (readFields reference).exec w' = (.ok (fields x), w') := by
  rw [exec_create] at h
  split at h
  · rename_i files hwrite
    cases h
    have hread := Files.read_write habsent hwrite
    refine ⟨⟨_, rfl⟩, Files.contains_write habsent hwrite, ?_⟩
    simp only [readFields, exec_query, Files.readText, hread, Bytes.toText?_ofText, hfields]
  · cases h

def readOr (read create : Action Workspace α) (reference : String) : Action Workspace α := do
  if ← hasFile reference then read else create

theorem exec_readOr (read create : Action Workspace α) (reference : String) (w : Workspace) :
    (readOr read create reference).exec w = if w.files.contains reference then read.exec w
      else create.exec w := by
  have hhas : (hasFile reference).exec w = (.ok (w.files.contains reference), w) := rfl
  rw [readOr, exec_bind_ok hhas]
  cases w.files.contains reference with
  | true => rfl
  | false => rfl

variable {read creation : Action Workspace α}

theorem grows_readOr (hread : Grows read)
    (hcreate : ∀ w : Workspace, w.files.contains reference = false →
      w.Extends (creation.exec w).2) :
    Grows (readOr read creation reference) := by
  intro w₀ w hw
  rw [exec_readOr]
  cases habsent : w.files.contains reference with
  | true => exact hread w₀ w hw
  | false => exact hw.trans (hcreate w habsent)

/-- What is created is found again if it is read as it was created. -/
theorem settles_readOr (hread : Settles read) (hgrows : Grows read)
    (hcreate : ∀ (w w' : Workspace) x, w.files.contains reference = false →
      creation.exec w = (.ok x, w') →
      w'.files.contains reference = true ∧ read.exec w' = (.ok x, w')) :
    Settles (readOr read creation reference) := by
  intro w w' w'' x h hext
  -- read or created, the file is there afterwards, and it is read the second time
  have hfound : w'.files.contains reference = true ∧ read.exec w'' = (.ok x, w'') := by
    rw [exec_readOr] at h
    cases habsent : w.files.contains reference with
    | true =>
      rw [if_pos habsent] at h
      have hext' : w.Extends w' := by
        have hsecond := hgrows w w (.refl _)
        rwa [h] at hsecond
      exact ⟨Files.Extends.contains hext' habsent, hread w w' w'' x h hext⟩
    | false =>
      rw [habsent, if_neg Bool.false_ne_true] at h
      obtain ⟨hcontains, hagain⟩ := hcreate w w' x habsent h
      exact ⟨hcontains, hread w' w' w'' x hagain hext⟩
  rw [exec_readOr, Files.Extends.contains hext hfound.1, if_pos rfl, hfound.2]

end Workspace

open Workspace

theorem Octets.isField_toHex (a : Octets 32) : Text.IsField a.toHex.toList := by
  rw [toHex, Hex.encode, String.toList_ofList]
  exact Text.isField_octets a

variable {w w' : Workspace} {reference argument : String}

theorem PrivateKey.fields_toFields (key : PrivateKey) :
    Text.fields (fieldLines key.toFields) = key.toFields := by
  apply fields_fieldLines (List.cons_ne_nil _ _)
  intro f hf
  have hmem : f ∈ [key.publicKey.coordinates.1.toHex, key.publicKey.coordinates.2.toHex,
      (Octets.ofNatBE 32 key.secret.val).toHex] := hf
  simp only [List.mem_cons, List.not_mem_nil, or_false] at hmem
  rcases hmem with rfl | rfl | rfl <;> exact Octets.isField_toHex _

theorem ChameleonParams.fields_toFields (params : ChameleonParams) :
    Text.fields (fieldLines params.toFields) = params.toFields := by
  apply fields_fieldLines (List.cons_ne_nil _ _)
  intro f hf
  have hmem : f ∈ [params.g.toHex, params.p.toHex, params.q.toHex, params.hk.toHex] ++
      (params.tk.map Octets.toHex).toList := hf
  rcases List.mem_append.1 hmem with hf | hf
  · simp only [List.mem_cons, List.not_mem_nil, or_false] at hf
    rcases hf with rfl | rfl | rfl | rfl <;> exact Octets.isField_toHex _
  · obtain ⟨tk, _, rfl⟩ := Option.map_eq_some_iff.1 (Option.mem_toList.1 hf)
    exact Octets.isField_toHex _

theorem keys_of_createKey {key : PrivateKey} (habsent : w.files.contains reference = false)
    (h : (createKey reference).exec w = (.ok key, w')) :
    w'.files.contains reference = true ∧ (privateKeyInFile reference).exec w' = (.ok key, w') ∧
      (publicKeyInFile reference).exec w' = (.ok key.publicKey, w') := by
  obtain ⟨⟨d, rfl⟩, hcontains, hread⟩ := readFields_of_create habsent h key.fields_toFields
  have hdrawn := PrivateKey.isDrawn_generate d
  generalize (PrivateKey.generate.run d).1 = key at hread hdrawn
  refine ⟨hcontains, ?_, ?_⟩
  · apply (exec_bind_ok hread).trans
    simp only [PrivateKey.toFields, PublicKey.toFields, List.cons_append, List.nil_append,
      hdrawn.ofFields]
    rfl
  · apply (exec_bind_ok hread).trans
    simp only [PrivateKey.toFields, PublicKey.toFields, List.cons_append, List.nil_append,
      PublicKey.ofFields_coordinates hdrawn.isReadable]
    rfl

theorem params_of_createParams {params : ChameleonParams}
    (habsent : w.files.contains reference = false)
    (h : (createParams reference).exec w = (.ok params, w')) :
    params.IsDrawn ∧ w'.files.contains reference = true ∧
      (paramsInFile reference).exec w' = (.ok params, w') := by
  obtain ⟨⟨d, rfl⟩, hcontains, hread⟩ := readFields_of_create habsent h params.fields_toFields
  have hdrawn := ChameleonParams.isDrawn_generate d
  refine ⟨hdrawn, hcontains, ?_⟩
  apply (exec_bind_ok hread).trans
  rw [hdrawn.ofFields]
  rfl

section

variable {fromFile : String → Action Workspace α} (fromText : String → Except Malformation α)

theorem grows_resolveWith (h : ∀ reference, Grows (fromFile reference)) (argument : String) :
    Grows (resolveWith fromFile fromText argument) := by
  intro w
  rw [resolveWith]
  exact .ite (.pure none) (.ite ((h _ w).map some) ((Preserves.lift _).map some))

theorem settles_resolveWith (h : ∀ reference, Settles (fromFile reference))
    (argument : String) :
    Settles (resolveWith fromFile fromText argument) := by
  rw [resolveWith]
  split
  · exact .lift (.ok none)
  · split
    · exact (h _).map some
    · exact (Settles.lift _).map some

theorem exec_resolveWith_file (hfile : isFileReference (Text.trim argument) = true) :
    (resolveWith fromFile fromText argument).exec w =
      (some <$> fromFile (Text.trim argument) : Action _ _).exec w := by
  have hne : Text.trim argument ≠ "" := by
    intro he
    rw [he] at hfile
    exact absurd hfile (by decide)
  rw [resolveWith]
  simp only [if_neg hne, if_pos hfile]

end

theorem resolvePublicKey_eq (argument : String) : resolvePublicKey argument =
    resolveWith (fun reference =>
      readOr (publicKeyInFile reference)
        (PrivateKey.publicKey <$> createKey reference) reference)
      publicKeyOfText argument := rfl

theorem resolveParams_eq (argument : String) : resolveParams argument =
    resolveWith (fun reference => readOr (paramsInFile reference)
      (createParams reference) reference)
      paramsOfText argument := rfl

theorem grows_resolvePublicKey (argument : String) : Grows (resolvePublicKey argument) := by
  rw [resolvePublicKey_eq]
  apply grows_resolveWith
  intro reference
  apply grows_readOr (grows_publicKeyInFile reference)
  intro w habsent
  rw [exec_map]
  exact extends_create habsent

theorem settles_resolvePublicKey (argument : String) : Settles (resolvePublicKey argument) := by
  rw [resolvePublicKey_eq]
  apply settles_resolveWith
  intro reference
  apply settles_readOr (settles_publicKeyInFile reference) (grows_publicKeyInFile reference)
  intro w w' key habsent h
  obtain ⟨whole, hcreate, rfl⟩ := exec_map_ok h
  obtain ⟨hcontains, _, hread⟩ := keys_of_createKey habsent hcreate
  exact ⟨hcontains, hread⟩

theorem grows_resolvePrivateKey (argument : String) : Grows (resolvePrivateKey argument) :=
  grows_resolveWith _ grows_privateKeyInFile argument

theorem settles_resolvePrivateKey (argument : String) : Settles (resolvePrivateKey argument) :=
  settles_resolveWith _ settles_privateKeyInFile argument

theorem grows_resolveParams (argument : String) : Grows (resolveParams argument) := by
  rw [resolveParams_eq]
  apply grows_resolveWith
  intro reference
  exact grows_readOr (grows_paramsInFile reference) fun w habsent => extends_create habsent

theorem settles_resolveParams (argument : String) : Settles (resolveParams argument) := by
  rw [resolveParams_eq]
  apply settles_resolveWith
  intro reference
  apply settles_readOr (settles_paramsInFile reference) (grows_paramsInFile reference)
  intro w w' params habsent h
  exact (params_of_createParams habsent h).2

theorem grows_resolveCommitment (argument : String) :
    Grows (resolveCommitment argument) := fun w =>
  (grows_resolvePublicKey argument w).bind fun _ => .pure _

theorem settles_resolveCommitment (argument : String) : Settles (resolveCommitment argument) :=
  (settles_resolvePublicKey argument).bind (fun _ => .lift (.ok _)) fun _ _ => .pure _

/-- An argument names a file that is missing and can be written. -/
structure Workspace.Creates (w : Workspace) (argument : String) : Prop where
  isFile : isFileReference (Text.trim argument) = true
  absent : w.files.contains (Text.trim argument) = false
  writes : ∀ content, ∃ files,
    w.files.write (Text.trim argument) content (some Files.secretMode) = .ok files

theorem exists_resolvePublicKey (h : w.Creates argument) : ∃ key w',
    (resolvePublicKey argument).exec w = (.ok (some key), w') ∧
      w'.files.contains (Text.trim argument) = true := by
  obtain ⟨key, w', hcreate⟩ := exists_create PrivateKey.generate PrivateKey.toFields h.writes
  refine ⟨key.publicKey, w', ?_, (keys_of_createKey h.absent hcreate).1⟩
  rw [resolvePublicKey_eq, exec_resolveWith_file _ h.isFile, exec_map, exec_readOr, h.absent,
    if_neg Bool.false_ne_true, exec_map, createKey_eq, hcreate]
  rfl

theorem exists_resolveParams (h : w.Creates argument) : ∃ params w',
    (resolveParams argument).exec w = (.ok (some params), w') := by
  obtain ⟨params, w', hcreate⟩ :=
    exists_create ChameleonParams.generate ChameleonParams.toFields h.writes
  rw [resolveParams_eq, exec_resolveWith_file _ h.isFile, exec_map, exec_readOr, h.absent,
    if_neg Bool.false_ne_true, createParams_eq, hcreate]
  exact ⟨_, _, rfl⟩

/-- A key that a missing file was created with is found there, whole. -/
theorem privateKey_of_created {found : Option PublicKey}
    (hfile : isFileReference (Text.trim argument) = true)
    (habsent : w.files.contains (Text.trim argument) = false)
    (h : (resolvePublicKey argument).exec w = (.ok found, w')) :
    ∃ key : PrivateKey, found = some key.publicKey ∧
      (resolvePrivateKey argument).exec w' = (.ok (some key), w') := by
  rw [resolvePublicKey_eq, exec_resolveWith_file _ hfile] at h
  obtain ⟨half, hread, rfl⟩ := exec_map_ok h
  rw [exec_readOr, habsent, if_neg Bool.false_ne_true] at hread
  obtain ⟨key, hcreate, rfl⟩ := exec_map_ok hread
  obtain ⟨_, hread, _⟩ := keys_of_createKey habsent hcreate
  refine ⟨key, rfl, ?_⟩
  rw [resolvePrivateKey, exec_resolveWith_file _ hfile, exec_map, hread]
  rfl

theorem isDrawn_of_created {found : Option ChameleonParams}
    (hfile : isFileReference (Text.trim argument) = true)
    (habsent : w.files.contains (Text.trim argument) = false)
    (h : (resolveParams argument).exec w = (.ok found, w')) :
    ∃ params, found = some params ∧ params.IsDrawn := by
  rw [resolveParams_eq, exec_resolveWith_file _ hfile] at h
  obtain ⟨params, hread, rfl⟩ := exec_map_ok h
  rw [exec_readOr, habsent, if_neg Bool.false_ne_true] at hread
  exact ⟨params, rfl, (params_of_createParams habsent hread).1⟩

theorem creates_empty : Workspace.empty.Creates "new.txt" := by
  have htrim : Text.trim "new.txt" = "new.txt" := by decide
  have hlocate : Files.empty.locate "new.txt" = .ok ["new.txt"] := by
    have hnames : "new.txt".splitOn "/" = ["new.txt"] := by
      simp +decide [String.splitOn, String.splitOnAux]
    have hrefusal : Files.refusal? "new.txt" = none := by decide
    rw [Files.locate, Files.names, hnames, hrefusal]
    decide +kernel
  have hnode : Files.empty.node? ["new.txt"] = none := by decide
  have hdirectory : Files.namesDirectory "new.txt" = false := by decide
  refine ⟨by decide, ?_, fun content => ?_⟩
  · rw [htrim, Workspace.empty, Files.contains, hlocate]
    dsimp only
    rw [hnode]
  · rw [htrim, Workspace.empty, Files.write, hlocate]
    simp only [hnode, hdirectory]
    exact ⟨_, rfl⟩

namespace Ledger

theorem preserves_inWorkspace {Q : Workspace → Prop} {a : Action Workspace α}
    (h : Action.Preserves Q a) :
    Action.Preserves (fun l => Q l.workspace) (inWorkspace a) := by
  intro l hl
  rw [inWorkspace, exec_on]
  exact h l.workspace hl

theorem stable_extends (w : Workspace) : Stable fun l => w.Extends l.workspace where
  publicKey argument := preserves_inWorkspace (grows_resolvePublicKey argument w)
  params argument := preserves_inWorkspace (grows_resolveParams argument w)
  checkString _ := preserves_inWorkspace fun _ h => h
  redact _ _ _ _ h := h
  put _ _ _ h := h

theorem keeps_workspace_send (tx : Transaction) : Keeps workspace (send tx) := by
  intro l
  rw [send, broadcast, exec_of]
  split <;> rfl

theorem extends_of_run (w : Workspace) (op : Operation) :
    Action.Preserves (fun l => w.Extends l.workspace) op.run :=
  preserves_run (stable_extends w).prepare (fun _ _ => .of_keeps (Q := w.Extends) fun _ => rfl)
    (fun tx => .of_keeps (keeps_workspace_send tx)) op

theorem extends_after (l : Ledger) (o : Occurrence) :
    l.workspace.Extends (l.after o).workspace := by
  cases o with
  | operation op => exact extends_of_run l.workspace op l (.refl _)
  | supply draws => exact .refl l.workspace
  | linkFault fault => exact .refl l.workspace

end Ledger

end RedactableLedger
