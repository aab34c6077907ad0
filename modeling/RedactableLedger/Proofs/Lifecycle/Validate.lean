import Mathlib.Data.List.TakeWhile
import RedactableLedger.Proofs.Lifecycle.Request
import RedactableLedger.Proofs.Workspace

namespace RedactableLedger

open RedactableLedger.Action

theorem Text.trim_eq_empty {s : String} : Text.trim s = "" ↔ Text.isBlankText s = true := by
  have hempty : ∀ cs : List Char, String.ofList cs = "" ↔ cs = [] := by
    intro cs
    constructor
    · intro h
      have hlist := congrArg String.toList h
      rwa [String.toList_ofList] at hlist
    · rintro rfl
      rfl
  rw [Text.trim, hempty, List.reverse_eq_nil_iff, List.dropWhile_eq_nil_iff, Text.isBlankText,
    List.all_eq_true]
  constructor
  · intro h c hc
    by_contra hne
    -- what is left begins with a character that is not blank
    have hrest : s.toList.dropWhile isBlank ≠ [] :=
      fun he => hne (List.dropWhile_eq_nil_iff.1 he c hc)
    have hhead := List.head_dropWhile_not isBlank hrest
    rw [h _ (List.mem_reverse.2 (List.head_mem hrest))] at hhead
    cases hhead
  · intro h c hc
    rw [List.dropWhile_eq_nil_iff.2 h] at hc
    cases hc

namespace Workspace

def Finds (w : Workspace) (argument : String) : Prop :=
  isFileReference (Text.trim argument) = true → w.files.contains (Text.trim argument) = true

theorem fails_readFields (reference : String) :
    Fails (readFields reference) Fault.IsNoRefusal := by
  apply Fails.query
  intro w
  split
  · exact .ok _
  · exact .error (by rintro ⟨⟩)

theorem fails_inFile (reference : String) (r : Except Malformation α) :
    (inFile reference r).Fails Fault.IsNoRefusal := .mapError (by rintro _ ⟨⟩)

theorem fails_publicKeyInFile (reference : String) :
    Fails (publicKeyInFile reference) Fault.IsNoRefusal := by
  refine (fails_readFields reference).bind fun fields => ?_
  split
  · exact .lift (fails_inFile _ _)
  · exact .lift (fails_inFile _ _)
  · exact .throw (by rintro ⟨⟩)

theorem fails_paramsInFile (reference : String) :
    Fails (paramsInFile reference) Fault.IsNoRefusal :=
  (fails_readFields reference).bind fun _ => .lift (fails_inFile _ _)

theorem fails_create (generate : StateM Draws α) (fields : α → List String)
    (reference : String) :
    Fails (create generate fields reference) Fault.IsNoRefusal := by
  intro w
  rw [exec_create]
  split
  · exact .ok _
  · exact .error (by rintro ⟨⟩)

theorem fails_readOr {read creation : Action Workspace α} {Q : Fault → Prop}
    (hread : Fails read Q) (hcreate : Fails creation Q) (reference : String) :
    Fails (readOr read creation reference) Q := by
  intro w
  rw [exec_readOr]
  split
  · exact hread w
  · exact hcreate w

theorem exec_readOr_found {read creation : Action Workspace α} {reference : String}
    {w : Workspace} (hread : Keeps id read) (h : w.files.contains reference = true) :
    ((readOr read creation reference).exec w).2 = w := by
  rw [exec_readOr, if_pos h]
  exact hread w

theorem keeps_publicKeyInFile (reference : String) : Keeps id (publicKeyInFile reference) := by
  refine (Keeps.query _).bind fun fields => ?_
  split
  · exact .lift _
  · exact .lift _
  · exact .throw _

theorem keeps_privateKeyInFile (reference : String) :
    Keeps id (privateKeyInFile reference) := by
  refine (Keeps.query _).bind fun fields => ?_
  split
  · exact .lift _
  · exact .throw _

theorem keeps_paramsInFile (reference : String) : Keeps id (paramsInFile reference) :=
  (Keeps.query _).bind fun _ => .lift _

section

variable {fromFile : String → Action Workspace α} (fromText : String → Except Malformation α)
  {w : Workspace} {argument : String}

theorem fails_resolveWith (h : ∀ reference, Fails (fromFile reference) Fault.IsNoRefusal)
    (argument : String) :
    Fails (resolveWith fromFile fromText argument) Fault.IsNoRefusal := by
  rw [resolveWith]
  split
  · exact .pure none
  · split
    · exact (h _).map some
    · exact (Fails.lift (.mapError (by rintro _ ⟨⟩))).map some

theorem exec_resolveWith_blank (fromFile : String → Action Workspace α)
    (h : Text.isBlankText argument = true) (w : Workspace) :
    (resolveWith fromFile fromText argument).exec w = (.ok none, w) := by
  rw [resolveWith]
  simp only [if_pos (Text.trim_eq_empty.2 h)]
  rfl

theorem yields_resolveWith (fromFile : String → Action Workspace α)
    (h : Text.isBlankText argument = false) :
    Yields (resolveWith fromFile fromText argument) (·.isSome) := by
  have hne : Text.trim argument ≠ "" := fun he => by simp [Text.trim_eq_empty.1 he] at h
  have hsome : ∀ a : Action Workspace α, Yields (some <$> a) (·.isSome) := by
    intro a w found hfound
    obtain ⟨x, _, rfl⟩ := exec_map_ok (Prod.ext hfound rfl)
    rfl
  rw [resolveWith]
  simp only [if_neg hne]
  split
  · exact hsome _
  · exact hsome _

theorem exec_resolveWith_found
    (hread : ∀ reference, w.files.contains reference = true →
      ((fromFile reference).exec w).2 = w) (h : w.Finds argument) :
    ((resolveWith fromFile fromText argument).exec w).2 = w := by
  rw [resolveWith]
  split
  · rfl
  · split
    · rw [exec_map]
      exact hread _ (h ‹_›)
    · rw [exec_map]
      rfl

end

end Workspace

open Workspace

theorem fails_resolvePublicKey (argument : String) :
    Fails (resolvePublicKey argument) Fault.IsNoRefusal := by
  rw [resolvePublicKey_eq]
  apply fails_resolveWith
  intro reference
  exact fails_readOr (fails_publicKeyInFile reference) ((fails_create _ _ _).map _) reference

theorem fails_resolveParams (argument : String) :
    Fails (resolveParams argument) Fault.IsNoRefusal := by
  rw [resolveParams_eq]
  apply fails_resolveWith
  intro reference
  exact fails_readOr (fails_paramsInFile reference) (fails_create _ _ _) reference

theorem exec_resolvePublicKey_blank {argument : String} (h : Text.isBlankText argument = true)
    (w : Workspace) :
    (resolvePublicKey argument).exec w = (.ok none, w) := exec_resolveWith_blank _ _ h w

theorem exec_resolvePublicKey_found {w : Workspace} {argument : String} (h : w.Finds argument) :
    ((resolvePublicKey argument).exec w).2 = w := by
  rw [resolvePublicKey_eq]
  exact exec_resolveWith_found _
    (fun reference => exec_readOr_found (keeps_publicKeyInFile reference)) h

theorem exec_resolveParams_found {w : Workspace} {argument : String} (h : w.Finds argument) :
    ((resolveParams argument).exec w).2 = w := by
  rw [resolveParams_eq]
  exact exec_resolveWith_found _
    (fun reference => exec_readOr_found (keeps_paramsInFile reference)) h

theorem exec_resolvePrivateKey (argument : String) (w : Workspace) :
    ((resolvePrivateKey argument).exec w).2 = w := by
  rw [resolvePrivateKey, resolveWith]
  split
  · rfl
  · split
    · rw [exec_map]
      exact keeps_privateKeyInFile _ w
    · rw [exec_map]
      rfl

theorem fails_resolveCommitment (argument : String) :
    Fails (resolveCommitment argument) Fault.IsNoRefusal :=
  (fails_resolvePublicKey argument).bind fun _ => .pure _

theorem yields_isSome_resolveCommitment {argument : String}
    (h : Text.isBlankText argument = false) :
    Yields (resolveCommitment argument) (·.isSome) := by
  refine (yields_resolveWith _ _ h).bind fun key hkey => .pure ?_
  rw [Option.isSome_map]
  exact hkey

theorem requireText_eq_ok {value name : String} :
    requireText value name = .ok () ↔ Text.isBlankText value = false := by
  rw [requireText]
  cases Text.isBlankText value <;> constructor <;> intro h <;> cases h <;> rfl

theorem Address.fails_ofHex {s : String} (h : s.utf8ByteSize = hexLength) :
    Outcome.Fails (ofHex s) Fault.IsNoRefusal := by
  rw [ofHex, if_pos h]
  split
  · exact .ok _
  · exact .error (by rintro ⟨⟩)

def Preparation.validate : Preparation → Outcome Unit
  | createAccount a => a.validate
  | addAccount a => a.validate
  | transferFunds a => a.validate
  | changeConfig a => a.validate
  | setStaking a => a.validate
  | updateData a => a.validate
  | deleteData a => a.validate

theorem Action.Fails.not_refused {a : Action σ α} {s t : σ} {v : Refusal}
    (h : Fails a Fault.IsNoRefusal) :
    a.exec s ≠ (.error (.validation v), t) := by
  intro hexec
  exact h s (.validation v) (by rw [hexec]) rfl

structure TransferFunds.IsChecked (a : TransferFunds) : Prop where
  source : Text.isBlankText a.source = false
  address : a.target = "" → a.targetAddress.utf8ByteSize = Address.hexLength
  fee : requirePositiveFee a.fee = .ok ()
  amount : a.amount ≠ 0
  params : Text.isBlankText a.params = false

theorem TransferFunds.isChecked_of_validate {a : TransferFunds} (h : a.validate = .ok ()) :
    a.IsChecked := by
  obtain ⟨_, hsource, hrest⟩ := bind_eq_ok.1 h
  dsimp only at hrest
  split at hrest
  · cases hrest
  · split at hrest
    · cases hrest
    · rename_i haddress
      obtain ⟨_, hfee, hrest⟩ := bind_eq_ok.1 hrest
      split at hrest
      · cases hrest
      · rename_i hamount
        refine ⟨requireText_eq_ok.1 hsource, ?_, hfee, hamount, requireText_eq_ok.1 hrest⟩
        intro htarget
        by_contra hlength
        exact haddress ⟨htarget, hlength⟩

namespace Ledger

variable {l l' : Ledger} {v : Refusal}

/-- A request that does not pass its check fails with nothing done. -/
theorem exec_of_invalid {request : Preparation} (h : request.validate = .error e) (l : Ledger) :
    request.run.exec l = (.error e, l) := by
  have hlift : ∀ (r : Outcome Unit) (f : Unit → Action Ledger Draft), r = .error e →
      (lift r >>= f).exec l = (.error e, l) := by
    rintro r f rfl
    exact exec_bind_error (exec_lift _ _)
  rw [Preparation.run]
  refine exec_bind_error ?_
  cases request <;> exact hlift _ _ h

theorem fails_require (name : String) {a : Action Workspace (Option α)}
    (h : Fails a Fault.IsNoRefusal) (hsome : Yields a (·.isSome)) :
    Fails (require name a) Fault.IsNoRefusal := by
  have hin : Fails (inWorkspace a) Fault.IsNoRefusal := fun l => h l.workspace
  refine hin.bind_yields (yields_inWorkspace hsome) fun found hfound => ?_
  cases found with
  | none => cases hfound
  | some x => exact .pure x

theorem fails_require_key (name : String) {argument : String}
    (h : Text.isBlankText argument = false) :
    Fails (require name (resolvePublicKey argument)) Fault.IsNoRefusal :=
  fails_require name (fails_resolvePublicKey argument) (yields_resolveWith _ _ h)

theorem fails_require_params (name : String) {argument : String}
    (h : Text.isBlankText argument = false) :
    Fails (require name (resolveParams argument)) Fault.IsNoRefusal :=
  fails_require name (fails_resolveParams argument) (yields_resolveWith _ _ h)

theorem fails_drawCheckString (params : ChameleonParams) :
    Fails (drawCheckString params) Fault.IsNoRefusal := by
  intro l
  simp only [drawCheckString, inWorkspace, exec_on, exec_of]
  exact .mapError (by rintro _ ⟨⟩)

theorem fails_of_positive {fee : UInt64} {f : Unit → Outcome Transaction}
    (hfee : requirePositiveFee fee = .ok ()) (hf : (f ()).Fails Fault.IsNoRefusal) :
    (requirePositiveFee fee >>= f).Fails Fault.IsNoRefusal := by
  rw [hfee]
  exact hf

theorem fails_accountOf {fee : UInt64} {rootWallet params : String}
    (hfee : requirePositiveFee fee = .ok ()) (hwallet : Text.isBlankText rootWallet = false)
    (hparams : Text.isBlankText params = false) (header : UInt8) (address : Address)
    (data : String) :
    Fails (draftAccountOf header fee rootWallet address params data) Fault.IsNoRefusal := by
  refine (fails_require_key _ hwallet).bind fun issuer => ?_
  refine (fails_require_params _ hparams).bind fun params => ?_
  refine (fails_drawCheckString _).bind fun cs => ?_
  exact (Fails.lift (fails_of_positive hfee (.ok _))).bind fun tx => .pure _

theorem fails_account {a : CreateAccount} (h : a.validate = .ok ()) :
    Fails (draftAccount a) Fault.IsNoRefusal := by
  obtain ⟨_, hfee, hrest⟩ := bind_eq_ok.1 h
  obtain ⟨_, hroot, hrest⟩ := bind_eq_ok.1 hrest
  obtain ⟨_, hwallet, hparams⟩ := bind_eq_ok.1 hrest
  rw [requireText_eq_ok] at hroot hwallet hparams
  refine .lift_bind h ?_
  refine (fails_require_key _ hwallet).bind fun key => ?_
  exact fails_accountOf hfee hroot hparams _ _ _

theorem fails_addAccount {a : AddAccount} (h : a.validate = .ok ()) :
    Fails (draftAddAccount a) Fault.IsNoRefusal := by
  obtain ⟨_, hfee, hrest⟩ := bind_eq_ok.1 h
  obtain ⟨_, hroot, hrest⟩ := bind_eq_ok.1 hrest
  obtain ⟨_, _, hrest⟩ := bind_eq_ok.1 hrest
  dsimp only at hrest
  split at hrest
  · cases hrest
  · rename_i hlength
    rw [requireText_eq_ok] at hroot hrest
    refine .lift_bind h ?_
    refine (Fails.lift (Address.fails_ofHex (Decidable.not_not.1 hlength))).bind fun address =>
      ?_
    exact fails_accountOf hfee hroot hrest _ _ _

theorem fails_config {a : ChangeConfig} (h : a.validate = .ok ()) :
    Fails (draftConfig a) Fault.IsNoRefusal := by
  obtain ⟨_, hfee, hrest⟩ := bind_eq_ok.1 h
  obtain ⟨_, hroot, _⟩ := bind_eq_ok.1 hrest
  rw [requireText_eq_ok] at hroot
  refine .lift_bind h ?_
  refine (fails_require_key _ hroot).bind fun key => ?_
  exact (Fails.lift (fails_of_positive hfee (.ok _))).bind fun tx => .pure _

theorem fails_setStaking {fee : UInt64} {isStaking : Bool} {commitment : Bytes}
    (hfee : requirePositiveFee fee = .ok ()) (hcommitment : IsCommitment isStaking commitment)
    (header : UInt8) (account : Digest) :
    (Transaction.setStaking header fee isStaking account commitment).Fails
      Fault.IsNoRefusal := by
  refine fails_of_positive hfee ?_
  dsimp only
  split
  · rename_i hempty
    rw [Bool.and_eq_true, List.isEmpty_iff] at hempty
    rw [IsCommitment, if_pos hempty.1, hempty.2] at hcommitment
    cases hcommitment
  · exact .ok _

theorem fails_staking {a : SetStaking} (h : a.validate = .ok ()) :
    Fails (draftStaking a) Fault.IsNoRefusal := by
  obtain ⟨_, hfee, hrest⟩ := bind_eq_ok.1 h
  obtain ⟨_, hwallet, hrest⟩ := bind_eq_ok.1 hrest
  rw [requireText_eq_ok] at hwallet
  have hcommitment : Fails (commitmentFor a) Fault.IsNoRefusal := by
    rw [commitmentFor]
    split
    · rename_i hstaking
      have hnamed : Text.isBlankText a.commitment = false := by
        cases hblank : Text.isBlankText a.commitment with
        | false => rfl
        | true =>
          rw [hstaking, hblank] at hrest
          cases hrest
      exact fails_require _ (fails_resolveCommitment _) (yields_isSome_resolveCommitment hnamed)
    · exact .pure []
  refine .lift_bind h ?_
  refine (fails_require_key _ hwallet).bind fun account => ?_
  refine hcommitment.bind_yields (yields_commitmentFor a) fun commitment hfits => ?_
  exact (Fails.lift (fails_setStaking hfee hfits _ _)).bind fun tx => .pure _

theorem fails_transfer {a : TransferFunds} (h : a.validate = .ok ())
    (htarget : a.target = "" ∨ Text.isBlankText a.target = false) :
    Fails (draftTransfer a) Fault.IsNoRefusal := by
  have hchecked := TransferFunds.isChecked_of_validate h
  have hto : Fails (transferTarget a) Fault.IsNoRefusal := by
    rw [transferTarget]
    split
    · exact .lift (Address.fails_ofHex (hchecked.address ‹_›))
    · rename_i hnamed
      exact (fails_require_key _ (htarget.resolve_left hnamed)).bind fun key => .pure _
  refine .lift_bind h ?_
  refine (fails_require_key _ hchecked.source).bind fun source => hto.bind fun target => ?_
  refine (fails_require_params _ hchecked.params).bind fun params => ?_
  refine (fails_drawCheckString _).bind fun cs => ?_
  refine (Fails.lift (fails_of_positive hchecked.fee ?_)).bind fun tx => .pure _
  dsimp only
  rw [if_neg hchecked.amount]
  exact .ok _

/-- A draft can be identified or else its parameters or its check string do not decode. -/
theorem fails_stage {request : Preparation} {draft : Draft} (h : request.Drafts draft) :
    Fails (stage draft) Fault.IsNoRefusal := by
  have hid : (draft.tx.id draft.params).Fails Fault.IsNoRefusal := by
    cases h with
    | config => exact .ok _
    | staking => exact .ok _
    | account => exact .mapError (by rintro _ ⟨⟩)
    | address => exact .mapError (by rintro _ ⟨⟩)
    | transfer => exact .mapError (by rintro _ ⟨⟩)
    | update => exact .mapError (by rintro _ ⟨⟩)
  exact (Fails.lift hid).bind fun hash => fun _ => .ok _

theorem fails_run {request : Preparation} (h : Fails request.draft Fault.IsNoRefusal) :
    Fails request.run Fault.IsNoRefusal :=
  h.bind_yields (yields_draft request) fun _ hdraft => fails_stage hdraft

end Ledger

end RedactableLedger
