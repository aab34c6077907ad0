import RedactableLedger.Proofs.Lifecycle.Frame
import RedactableLedger.Proofs.Lifecycle.Run

namespace RedactableLedger

open RedactableLedger.Action

/-- The outcome of a broadcast after which a result is handed back. -/
def Link.report (link : Link) (x : α) : Outcome α :=
  match link.fault with
  | some e => .error (.transport e)
  | none => .ok x

theorem Link.eq_of_report {link : Link} {x y : α} (h : link.report x = .ok y) : x = y := by
  rw [report] at h
  split at h
  · cases h
  · cases h
    rfl

theorem Link.transport_of_report {link : Link} {x : α} {e : Fault}
    (h : link.report x = .error e) :
    ∃ fault, e = .transport fault := by
  rw [report] at h
  split at h
  · cases h
    exact ⟨_, rfl⟩
  · cases h

namespace Operation

def submits? : Operation → Option TxHash
  | submit hash => some hash
  | attachAndSubmit hash _ _ => some hash
  | _ => none

/-- Whether the signature that an operation attaches before it submits is the one in which
nothing is signed. -/
def attachesEmpty : Operation → Bool
  | attachAndSubmit _ primary _ => primary.isEmpty
  | _ => false

/-- What an operation hands to the link, told by the ledgers before and after it. -/
inductive Hands (op : Operation) (l l' : Ledger) : Prop
  | nothing (hlink : l'.link = l.link)
  | record {hash : TxHash} (hop : op.submits? = some hash) (hload : l'.store.load hash = .ok tx)
      (hsigned : tx.isSigned = !op.attachesEmpty) (hlink : l'.link = l.link.hand tx.frame false)

end Operation

theorem Transaction.isSigned_of_attach {tx record : Transaction} {primary : Signature}
    {cosigner : Option Signature} (h : tx.attach primary cosigner = .ok record) :
    record.isSigned = !primary.isEmpty := by
  rw [Transaction.attach] at h
  split at h
  · cases h
  · cases h
    rfl

namespace Ledger

variable {hash : TxHash} {primary : Signature} {cosigner : Option Signature}
  {record : Transaction} {l l' : Ledger} {e : Fault}

def handing (l : Ledger) (tx : Transaction) : Ledger :=
  { l with link := l.link.hand tx.frame false }

theorem exec_send_return (tx : Transaction) (l : Ledger) :
    (do send tx; return tx : Action Ledger Transaction).exec l =
      (l.link.report tx, l.handing tx) := by
  rw [exec_bind, send, broadcast, exec_of, Link.report]
  cases l.link.fault <;> rfl

theorem exec_submit (hash : TxHash) (l : Ledger) :
    (submit hash).exec l =
      match l.store.load hash with
      | .error e => (.error e, l)
      | .ok tx =>
        if tx.isSigned then (l.link.report tx, l.handing tx)
          else (.error (.validation .unsigned), l) := by
  rw [submit, exec_bind, exec_query]
  cases l.store.load hash with
  | error e => rfl
  | ok tx =>
    dsimp only
    cases tx.isSigned with
    | true => exact exec_send_return tx l
    | false => rfl

/-- A submission with signatures fails as attaching them does, or broadcasts the record that was
signed. -/
theorem attach_of_attachAndSubmit {r : Outcome Transaction}
    (h : (attachAndSubmit hash primary cosigner).exec l = (r, l')) :
    (∃ e, (attach hash primary cosigner).exec l = (.error e, l') ∧ r = .error e) ∨
      ∃ record l₁, (attach hash primary cosigner).exec l = (.ok record, l₁) ∧
        r = l₁.link.report record ∧
        l' = l₁.handing record := by
  obtain ⟨r₁, l₁, hattach⟩ : ∃ r₁ l₁, (attach hash primary cosigner).exec l = (r₁, l₁) :=
    ⟨_, _, rfl⟩
  cases r₁ with
  | error e =>
    rw [attachAndSubmit, exec_bind_error hattach] at h
    cases h
    exact .inl ⟨e, hattach, rfl⟩
  | ok record =>
    rw [attachAndSubmit, exec_bind_ok hattach, exec_send_return] at h
    cases h
    exact .inr ⟨record, l₁, hattach, rfl, rfl⟩

theorem hands_of_submit (hash : TxHash) (l : Ledger) :
    (Operation.submit hash).Hands l ((submit hash).exec l).2 := by
  rw [exec_submit]
  cases hload : l.store.load hash with
  | error e => exact .nothing rfl
  | ok tx =>
    dsimp only
    cases hsigned : tx.isSigned with
    | true => exact .record rfl hload hsigned rfl
    | false => exact .nothing rfl

theorem hands_of_attachAndSubmit (hash : TxHash) (primary : Signature)
    (cosigner : Option Signature) (l : Ledger) :
    (Operation.attachAndSubmit hash primary cosigner).Hands l
      ((attachAndSubmit hash primary cosigner).exec l).2 := by
  have hlink : ((attach hash primary cosigner).exec l).2.link = l.link := link_of_amend ..
  obtain ⟨r, l', h⟩ : ∃ r l', (attachAndSubmit hash primary cosigner).exec l = (r, l') :=
    ⟨_, _, rfl⟩
  rw [h]
  obtain ⟨e, hattach, _⟩ | ⟨record, l₁, hattach, _, rfl⟩ := attach_of_attachAndSubmit h
  · rw [hattach] at hlink
    exact .nothing hlink
  · rw [hattach] at hlink
    obtain ⟨tx, hload, hrecord, hstore⟩ := record_of_signing hattach
    have hfits : record.Fits :=
      (Transaction.signs_of_attach hrecord).fits (Store.fits_of_load hload)
    -- what is broadcast is read back from the store that the signatures were put into
    have hstored : l₁.store.load hash = .ok record := by
      rw [hstore]
      exact l.store.load_put_self hash hfits
    refine .record rfl hstored (Transaction.isSigned_of_attach hrecord) ?_
    rw [← hlink]
    rfl

/-- An operation hands over nothing but the record that it submits, as the store holds it
afterwards. -/
theorem hands_of_operation (op : Operation) (l : Ledger) :
    op.Hands l (l.after (.operation op)) := by
  cases op <;> rw [after, Operation.run, exec_map]
  case submit hash => exact hands_of_submit hash l
  case attachAndSubmit hash primary cosigner =>
    exact hands_of_attachAndSubmit hash primary cosigner l
  case prepare request => exact .nothing (link_of_prepare request l)
  case attach => exact .nothing (link_of_amend ..)
  case sign => exact .nothing (link_of_amend ..)
  case redact => exact .nothing (link_of_amend ..)
  case delete => exact .nothing (link_of_amend ..)

end Ledger

end RedactableLedger
