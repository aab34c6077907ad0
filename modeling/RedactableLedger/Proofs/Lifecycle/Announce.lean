import RedactableLedger.Proofs.Lifecycle.Request

namespace RedactableLedger

open RedactableLedger.Action

/-- A redaction that was carried out, with what its announcement is made of. -/
structure Redacted where
  target : TxHash
  issuer : PublicKey
  params : ChameleonParams
  checkString : CheckString

namespace Ledger

def redactTarget (a : UpdateData) : Action Ledger Redacted := do
  Action.lift a.validate
  let target ← Action.lift (txHashOfHex (Text.trim a.txHash))
  let issuer ← require "txIssuer" (resolvePublicKey a.issuer)
  let params ← require "ch_params" (resolveParams a.params)
  let checkString ← redact target (Bytes.ofText a.newData) params
  return ⟨target, issuer, params, checkString⟩

def announce (a : UpdateData) (r : Redacted) : Action Ledger Draft := do
  let checkString ← drawCheckString r.params
  let tx ← Action.lift (Transaction.announceUpdate a.header a.fee r.target r.checkString
      (Bytes.ofText a.newData)
    r.issuer.address.digest checkString (Bytes.ofText a.data))
  return ⟨tx, some r.params⟩

theorem draftUpdate_eq (a : UpdateData) : draftUpdate a = redactTarget a >>= announce a := by
  simp only [draftUpdate, redactTarget, announce, bind_assoc, pure_bind]

theorem draft_of_update {request : Preparation} {a : UpdateData}
    (h : request.update? = some a) :
    request.draft = draftUpdate a := by
  cases request <;> cases h <;> rfl

/-- When a target is redacted the fee is known to be positive and the parameters are known to
decode. -/
theorem yields_redactTarget (a : UpdateData) :
    Yields (redactTarget a) fun r => requirePositiveFee a.fee = .ok () ∧
      ∃ d, r.params.decode = .ok d := by
  refine (Yields.lift _).bind fun _ hvalid => (Yields.any _).bind fun target _ => ?_
  refine (Yields.any _).bind fun issuer _ => (Yields.any _).bind fun params _ => ?_
  have hredact : Yields (redact target (Bytes.ofText a.newData) params) fun _ =>
      ∃ d, params.decode = .ok d :=
    fun l cs h => (replaces_of_redact (Prod.ext h rfl)).decode
  exact hredact.bind fun cs hdecode => .pure ⟨UpdateData.positive_of_validate hvalid, hdecode⟩

theorem exec_announce {a : UpdateData} {r : Redacted} (hfee : requirePositiveFee a.fee = .ok ())
    (hparams : r.params.decode = .ok d) (l : Ledger) :
    ∃ own l', own.decode = .ok l.nextScalar ∧ (announce a r).exec l =
      (.ok ⟨.unsigned a.header a.fee (Bytes.ofText a.data) (some own)
        (.update r.target r.checkString (Bytes.ofText a.newData) r.issuer.address.digest),
          some r.params⟩, l') := by
  obtain ⟨l', hdraw⟩ := drawCheckString_of_decode hparams l
  refine ⟨.ofScalar l.nextScalar, l', CheckString.decode_ofScalar l.nextScalar, ?_⟩
  rw [announce, exec_bind_ok hdraw, Transaction.announceUpdate_of_positive hfee]
  rfl

theorem isOk_of_update {request : Preparation} {a : UpdateData} (h : request.update? = some a)
    (l : Ledger) :
    (request.run.exec l).1.isOk = ((redactTarget a).exec l).1.isOk := by
  rw [Preparation.run, draft_of_update h, draftUpdate_eq]
  obtain ⟨o, l₁, hredact⟩ : ∃ o l₁, (redactTarget a).exec l = (o, l₁) := ⟨_, _, rfl⟩
  cases o with
  | error e =>
    rw [exec_bind_error (exec_bind_error hredact), hredact]
    rfl
  | ok r =>
    obtain ⟨hfee, d, hparams⟩ := yields_redactTarget a l r (by rw [hredact])
    obtain ⟨own, l₂, hown, hannounce⟩ := exec_announce hfee hparams l₁
    obtain ⟨hash, hid⟩ := Transaction.id_of_decode (.unsigned ..) rfl hparams hown
    rw [exec_bind_ok ((exec_bind_ok hredact).trans hannounce), exec_stage, hid, hredact]
    rfl

end Ledger

end RedactableLedger
