import RedactableLedger.Proofs.Lifecycle.Deed
import RedactableLedger.Proofs.Resolve

namespace RedactableLedger

open RedactableLedger.Action

def PublicKey.IsReadable (key : PublicKey) : Prop :=
  Secp256k1.pointOf? key.coordinates.1 key.coordinates.2 = some key.point

namespace Ledger

variable {l : Ledger} {params : ChameleonParams} {d : ChameleonParams.Decoded}
  {key key' : PublicKey}

theorem exec_require {a : Action Workspace (Option α)} {w : Workspace} (name : String)
    (h : a.exec l.workspace = (.ok (some x), w)) :
    (require name a).exec l = (.ok x, { l with workspace := w }) := by
  have hin : (inWorkspace a).exec l = (.ok (some x), { l with workspace := w }) := by
    rw [inWorkspace, exec_on, h]
  rw [require, exec_bind_ok hin]
  rfl

theorem resolved_of_require {a : Action Workspace (Option α)} {name : String} {x : α}
    (h : (require name a).exec l = (.ok x, l')) :
    ∃ w, a.exec l.workspace = (.ok (some x), w) ∧ l' = { l with workspace := w } := by
  obtain ⟨found, l₁, hin, hfound⟩ := exec_bind_eq_ok.1 h
  obtain ⟨r, w, hexec⟩ : ∃ r w, a.exec l.workspace = (r, w) := ⟨_, _, rfl⟩
  rw [inWorkspace, exec_on, hexec] at hin
  cases hin
  cases found with
  | none => cases hfound
  | some y =>
    cases hfound
    exact ⟨w, hexec, rfl⟩

theorem exec_require_key (name : String) (h : key.IsReadable) (l : Ledger) :
    (require name (resolvePublicKey key.text)).exec l = (.ok key, l) :=
  exec_require name (resolvePublicKey_text h l.workspace)

theorem exec_require_params (name : String) (h : params.decode = .ok d) (l : Ledger) :
    (require name (resolveParams params.text)).exec l = (.ok params, l) :=
  exec_require name (resolveParams_text h l.workspace)

def transferRequest (key key' : PublicKey) (params : ChameleonParams) (amount fee : UInt64)
    (data : String) : TransferFunds where
  source := key.text
  target := key'.text
  params := params.text
  amount := amount
  fee := fee
  data := data

theorem text_ne_empty (a : Octets 32) (as : List (Octets 32)) : Text.hexFields a as ≠ "" := by
  intro he
  have hb := Text.requireText_hexFields a as ""
  rw [he] at hb
  cases hb

section

variable {amount fee : UInt64} (data : String)

theorem validate_transferRequest (key key' : PublicKey) (params : ChameleonParams)
    (hamount : amount ≠ 0) (hfee : fee ≠ 0) :
    (transferRequest key key' params amount fee data).validate = .ok () := by
  have hne : key'.text ≠ "" := text_ne_empty _ _
  simp only [TransferFunds.validate, transferRequest, PublicKey.text, ChameleonParams.text,
    Text.requireText_hexFields, requirePositiveFee, hamount, hfee] at hne ⊢
  simp only [hne]
  rfl

theorem exec_transferTarget (key : PublicKey) (params : ChameleonParams) (amount fee : UInt64)
    (hkey' : key'.IsReadable) (l : Ledger) :
    (transferTarget (transferRequest key key' params amount fee data)).exec l =
      (.ok key'.address, l) := by
  have hne : (transferRequest key key' params amount fee data).target ≠ "" := text_ne_empty _ _
  rw [transferTarget, if_neg hne]
  exact exec_bind_ok (exec_require_key "to" hkey' l)

theorem exec_draftTransfer (hkey : key.IsReadable) (hkey' : key'.IsReadable)
    (hparams : params.decode = .ok d) (hamount : amount ≠ 0) (hfee : fee ≠ 0) (l : Ledger) :
    ∃ l', (draftTransfer (transferRequest key key' params amount fee data)).exec l =
      (.ok ⟨.unsigned 0 fee (Bytes.ofText data) (some (.ofScalar l.nextScalar))
        (.fundsTransfer amount 0 key.address.digest key'.address.digest), some params⟩,
          l') := by
  obtain ⟨l', hdraw⟩ := drawCheckString_of_decode hparams l
  generalize l.nextScalar = r at hdraw ⊢
  refine ⟨l', ?_⟩
  rw [draftTransfer, validate_transferRequest data key key' params hamount hfee,
    exec_bind_ok (exec_lift _ _)]
  refine (exec_bind_ok (exec_require_key "from" hkey l)).trans ?_
  refine (exec_bind_ok (exec_transferTarget data key params amount fee hkey' l)).trans ?_
  refine (exec_bind_ok (exec_require_params "chparams" hparams l)).trans ?_
  refine (exec_bind_ok hdraw).trans ?_
  have htx := Transaction.transferFunds_of_positive hfee hamount 0 0 key.address.digest
    key'.address.digest (.ofScalar r) (Bytes.ofText data)
  simp only [transferRequest, htx]
  rfl

end

theorem deed_of_draft (request : Preparation) {draft : Draft} {hash : TxHash}
    (hdraft : ∃ l', request.draft.exec l = (.ok draft, l'))
    (hid : draft.tx.id draft.params = .ok hash) :
    l.deed (.operation (.prepare request)) = .staged hash draft := by
  obtain ⟨l', hdraft⟩ := hdraft
  have hrun : (request.run.exec l).1 = .ok ⟨hash, draft.tx⟩ := by
    rw [Preparation.run, exec_bind_ok hdraft, exec_stage, hid]
  rw [deed, hdraft, hrun]
  rfl

theorem deed_of_transfer (hkey : key.IsReadable) (hkey' : key'.IsReadable)
    (hparams : params.decode = .ok d) {amount fee : UInt64} (hamount : amount ≠ 0)
    (hfee : fee ≠ 0) (data : String) (l : Ledger) :
    ∃ hash, l.deed (.operation (.prepare (.transferFunds
        (transferRequest key key' params amount fee data)))) =
      .staged hash ⟨.unsigned 0 fee (Bytes.ofText data) (some (.ofScalar l.nextScalar))
        (.fundsTransfer amount 0 key.address.digest key'.address.digest), some params⟩ := by
  have hdraft := exec_draftTransfer data hkey hkey' hparams hamount hfee l
  obtain ⟨hash, hid⟩ :=
    Transaction.id_of_decode (.unsigned ..) rfl hparams
      (CheckString.decode_ofScalar l.nextScalar)
  exact ⟨hash, deed_of_draft (.transferFunds _) hdraft hid⟩

def updateRequest (target : TxHash) (key : PublicKey) (params : ChameleonParams) (fee : UInt64)
    (newData data : String) : UpdateData where
  fee := fee
  txHash := Text.hexFields target []
  issuer := key.text
  params := params.text
  newData := newData
  data := data

theorem txHashOfHex_hexFields (hash : TxHash) :
    txHashOfHex (Text.trim (Text.hexFields hash [])) = .ok hash := by
  have htext : Text.hexFields hash [] = hash.toHex := by
    rw [Text.hexFields, Text.joined, List.map_nil, List.flatMap_nil, List.append_nil]
    rfl
  have htrim : Text.trim (Text.hexFields hash []) = Text.hexFields hash [] :=
    Text.trim_joined (Text.isField_octets hash) (Text.isField_of_mem [])
  rw [htrim, htext, txHashOfHex, decodeField_toHex]
  rfl

theorem keeps_workspace_redact (hash : TxHash) (data : Bytes) (params : ChameleonParams) :
    Keeps workspace (redact hash data params) := fun _ => rfl

theorem validate_updateRequest (target : TxHash) (key : PublicKey) (params : ChameleonParams)
    {fee : UInt64} (hfee : fee ≠ 0) (newData data : String) :
    (updateRequest target key params fee newData data).validate = .ok () := by
  simp only [UpdateData.validate, updateRequest, PublicKey.text, ChameleonParams.text,
    Text.requireText_hexFields, requirePositiveFee, hfee]
  rfl

theorem exec_draftUpdate (hkey : key.IsReadable) (hparams : params.decode = .ok d)
    {fee : UInt64} (hfee : fee ≠ 0) {target : TxHash} {newData : String} {cs : CheckString}
    (hredact : ((redact target (Bytes.ofText newData) params).exec l).1 = .ok cs)
    (data : String) :
    ∃ l', (draftUpdate (updateRequest target key params fee newData data)).exec l =
      (.ok ⟨.unsigned 0 fee (Bytes.ofText data) (some (.ofScalar l.nextScalar))
        (.update target cs (Bytes.ofText newData) key.address.digest), some params⟩, l') := by
  obtain ⟨o, l₁, hexec⟩ : ∃ o l₁, (redact target (Bytes.ofText newData) params).exec l =
    (o, l₁) :=
    ⟨_, _, rfl⟩
  rw [hexec] at hredact
  dsimp only at hredact
  subst hredact
  have hnext : l₁.nextScalar = l.nextScalar := by
    have hkeeps := keeps_workspace_redact target (Bytes.ofText newData) params l
    rw [hexec] at hkeeps
    rw [nextScalar, nextScalar, hkeeps]
  obtain ⟨l₂, hdraw⟩ := drawCheckString_of_decode hparams l₁
  rw [hnext] at hdraw
  generalize l.nextScalar = r at hdraw ⊢
  refine ⟨l₂, ?_⟩
  rw [draftUpdate, validate_updateRequest target key params hfee newData data]
  refine (exec_bind_ok (exec_lift _ _)).trans ?_
  refine (exec_bind_ok (x := target) (t := l) ?_).trans ?_
  · rw [exec_lift]
    exact congrArg (·, l) (txHashOfHex_hexFields target)
  refine (exec_bind_ok (exec_require_key "txIssuer" hkey l)).trans ?_
  refine (exec_bind_ok (exec_require_params "ch_params" hparams l)).trans ?_
  refine (exec_bind_ok hexec).trans ?_
  refine (exec_bind_ok hdraw).trans ?_
  have hpositive : requirePositiveFee (updateRequest target key params fee newData data).fee =
      .ok () :=
    if_neg hfee
  rw [Transaction.announceUpdate_of_positive hpositive]
  rfl

theorem deed_of_update (hkey : key.IsReadable) (hparams : params.decode = .ok d) {fee : UInt64}
    (hfee : fee ≠ 0) {target : TxHash} {newData : String} {cs : CheckString}
    (hredact : ((redact target (Bytes.ofText newData) params).exec l).1 = .ok cs)
    (data : String) :
    ∃ hash, l.deed (.operation
        (.prepare (.updateData (updateRequest target key params fee newData data)))) =
      .staged hash ⟨.unsigned 0 fee (Bytes.ofText data) (some (.ofScalar l.nextScalar))
        (.update target cs (Bytes.ofText newData) key.address.digest), some params⟩ := by
  have hdraft := exec_draftUpdate hkey hparams hfee hredact data
  obtain ⟨hash, hid⟩ :=
    Transaction.id_of_decode (.unsigned ..) rfl hparams
      (CheckString.decode_ofScalar l.nextScalar)
  exact ⟨hash, deed_of_draft (.updateData _) hdraft hid⟩

def configRequest (key : PublicKey) (option : ConfigOption) (payload fee : UInt64) :
    ChangeConfig where
  fee := fee
  rootWallet := key.text
  option := option.id
  payload := payload

theorem deed_of_config (hkey : key.IsReadable) {fee : UInt64} (hfee : fee ≠ 0)
    (option : ConfigOption) (payload : UInt64) (l : Ledger) :
    l.deed (.operation (.prepare (.changeConfig (configRequest key option payload fee)))) =
      .staged (Transaction.unsigned 0 fee [] none (.config option.id payload 0)).contentHash
        ⟨.unsigned 0 fee [] none (.config option.id payload 0), none⟩ := by
  have hvalid : (configRequest key option payload fee).validate = .ok () := by
    simp only [ChangeConfig.validate, configRequest, PublicKey.text, Text.requireText_hexFields,
      requirePositiveFee, hfee]
    cases option <;> rfl
  refine deed_of_draft (.changeConfig _) ⟨l, ?_⟩ rfl
  rw [Preparation.draft, draftConfig, hvalid]
  refine (exec_bind_ok (exec_lift _ _)).trans ?_
  refine (exec_bind_ok (exec_require_key "rootwallet" hkey l)).trans ?_
  simp only [configRequest, Transaction.changeConfig, requirePositiveFee, hfee]
  rfl

theorem outcome_of_attach {tx record : Transaction} {hash : TxHash} {primary : Signature}
    {cosigner : Option Signature} (hget : l.store.get hash = .ok (some tx))
    (hattach : tx.attach primary cosigner = .ok record) :
    ((attach hash primary cosigner).exec l).1 = .ok record :=
  outcome_of_amend hget (bind_eq_ok.2 ⟨record, hattach, rfl⟩)

theorem deed_of_attach {tx record : Transaction} {hash : TxHash} {primary : Signature}
    {cosigner : Option Signature} (hget : l.store.get hash = .ok (some tx))
    (hattach : tx.attach primary cosigner = .ok record) :
    l.deed (.operation (.attach hash primary cosigner)) = .signed hash record ∧
      l.deed (.operation (.attachAndSubmit hash primary cosigner)) = .signed hash record := by
  rw [deed, deed, outcome_of_attach hget hattach]
  exact ⟨rfl, rfl⟩

end Ledger

def baseKey : PublicKey := ⟨Secp256k1.base⟩

theorem baseKey_isReadable : baseKey.IsReadable := by
  rw [PublicKey.IsReadable]
  decide

def smallParams : ChameleonParams := .ofTrapdoor (.affine 1 2) 5

theorem decode_smallParams : ∃ d, smallParams.decode = .ok d ∧ d.tk = some 5 := by
  have h : smallParams.decode.toOption.bind (·.tk) = some 5 := by
    decide +kernel
  cases hd : smallParams.decode with
  | error e =>
    rw [hd] at h
    cases h
  | ok d =>
    rw [hd] at h
    exact ⟨d, rfl, h⟩

end RedactableLedger
