import RedactableLedger.Proofs.Concurrent.Serial
import RedactableLedger.Proofs.Key.Ecdsa
import RedactableLedger.Proofs.Lifecycle.Revision

namespace RedactableLedger

open RedactableLedger.Action

namespace Outcome

def fault? : Outcome α → Option Fault
  | .error e => some e
  | .ok _ => none

theorem fault?_map (r : Outcome α) (f : α → β) : fault? (r.map f) = fault? r := by
  cases r <;> rfl

end Outcome

namespace Amendment

def isSigning : Amendment → Bool
  | attach .. | sign .. => true
  | redact .. => false

def operation (hash : TxHash) : Amendment → Operation
  | attach primary cosigner => .attach hash primary cosigner
  | sign key cosigner => .sign hash key cosigner
  | redact data params => .redact hash data params

/-- The given signatures are in the slots, or those in the slots verify over the hash under the
given keys. -/
def InSlots (hash : TxHash) (tx : Transaction) : Amendment → Prop
  | attach primary cosigner => tx.sig1 = primary ∧ ∀ second ∈ cosigner, tx.sig2 = second
  | sign key cosigner => Ecdsa.verify key.publicKey hash tx.sig1 = true ∧
      ∀ second ∈ cosigner, Ecdsa.verify second.publicKey hash tx.sig2 = true
  | redact .. => False

namespace Answer

def ofOperation : Answer → Operation.Answer
  | record tx => .record tx
  | checkString cs => .checkString cs

end Answer

end Amendment

variable {hash other : TxHash} {tx t signed redacted : Transaction} {P : ChameleonParams}
  {cs : CheckString} {data : Bytes} {key : PrivateKey} {primary : Signature}
  {second : Option Signature} {cosigner : Option PrivateKey} {a b : Amendment}
  {call : AmendCall} {s : Store} {l : Ledger} {e : Fault} {answer : Amendment.Answer}

namespace Transaction

def withSlots (tx : Transaction) (slots : Signature × Signature) : Transaction :=
  { tx with sig1 := slots.1, sig2 := slots.2 }

theorem signs_withSlots (tx : Transaction) (slots : Signature × Signature) :
    tx.Signs (tx.withSlots slots) :=
  ⟨⟨rfl, rfl, rfl⟩, rfl, rfl⟩

theorem Signs.eq_withSlots (h : tx.Signs signed) : signed = tx.withSlots signed.slots := by
  obtain ⟨⟨hheader, hfee, hbody⟩, hdata, hcheck⟩ := h
  cases signed
  cases hheader
  cases hfee
  cases hbody
  cases hdata
  cases hcheck
  rfl

theorem attach_congr (hkind : t.kind = tx.kind) (hslot : t.sig2 = tx.sig2) (primary : Signature)
    (second : Option Signature) :
    t.attach primary second = (tx.attach primary second).map fun signed =>
      t.withSlots signed.slots := by
  rw [attach, attach, hkind, hslot]
  split <;> rfl

theorem sign_congr (hkind : t.kind = tx.kind) (hslot : t.sig2 = tx.sig2) (hash : TxHash)
    (key : PrivateKey) (cosigner : Option PrivateKey) :
    t.sign hash key cosigner = (tx.sign hash key cosigner).map fun signed =>
      t.withSlots signed.slots := by
  apply bind_eq_map_bind
  intro primary
  apply bind_eq_map_bind
  intro second
  exact attach_congr hkind hslot primary second

theorem redact_withSlots (tx : Transaction) (slots : Signature × Signature) (hash : TxHash)
    (data : Bytes) (P : ChameleonParams) :
    (tx.withSlots slots).redact hash data P = (tx.redact hash data P).map fun p =>
      (p.1, p.2.withSlots slots) := by
  have hsigns := signs_withSlots tx slots
  unfold redact
  rw [hsigns.terms.kind, hsigns.checkString, hsigns.id]
  split
  · apply bind_eq_map_bind
    intro before
    dsimp only
    by_cases hbefore : before ≠ hash
    · rw [if_pos hbefore, if_pos hbefore]
      rfl
    rw [if_neg hbefore, if_neg hbefore]
    by_cases htk : (!P.hasTrapdoor) = true
    · rw [if_pos htk, if_pos htk]
      rfl
    rw [if_neg htk, if_neg htk]
    apply bind_eq_map_bind
    intro cs
    apply bind_eq_map_bind
    intro after
    by_cases hafter : after ≠ hash
    · rw [if_pos hafter, if_pos hafter]
      rfl
    rw [if_neg hafter, if_neg hafter]
    rfl
  · rfl

theorem slots_of_attach (h : tx.attach primary second = .ok signed) :
    signed.sig1 = primary ∧ ∀ c ∈ second, signed.sig2 = c := by
  rw [attach] at h
  split at h
  · cases h
  · rename_i htakes
    cases h
    refine ⟨rfl, fun c hc => ?_⟩
    cases hc
    have hkind : tx.kind.takesCosigner = true := by simpa using htakes
    exact if_pos hkind

theorem verify_of_sign (h : tx.sign hash key cosigner = .ok signed) :
    Ecdsa.verify key.publicKey hash signed.sig1 = true ∧
      ∀ k ∈ cosigner, Ecdsa.verify k.publicKey hash signed.sig2 = true := by
  obtain ⟨primary, hprimary, h⟩ := bind_eq_ok.1 h
  obtain ⟨second, hsecond, h⟩ := bind_eq_ok.1 h
  obtain ⟨hfirst, hcosigned⟩ := slots_of_attach h
  constructor
  · rw [hfirst]
    exact Ecdsa.verify_of_sign (mapError_eq_ok.1 hprimary)
  · intro k hk
    cases hk
    rw [Option.mapM_some] at hsecond
    generalize hsign : (Ecdsa.sign k hash).mapError Fault.crypto = r at hsecond
    cases r with
    | error e => cases hsecond
    | ok signature =>
      cases hsecond
      rw [hcosigned signature rfl]
      exact Ecdsa.verify_of_sign (mapError_eq_ok.1 hsign)

end Transaction

namespace Amendment

theorem apply_of_signing (hs : a.isSigning = true) (hkind : t.kind = tx.kind)
    (hslot : t.sig2 = tx.sig2) :
    a.apply hash t =
      (a.apply hash tx).map fun p =>
        (.record (t.withSlots p.2.slots), t.withSlots p.2.slots) := by
  cases a with
  | attach primary second =>
    rw [apply, apply, Transaction.attach_congr hkind hslot]
    cases tx.attach primary second <;> rfl
  | sign key cosigner =>
    rw [apply, apply, Transaction.sign_congr hkind hslot]
    cases tx.sign hash key cosigner <;> rfl
  | redact data P => cases hs

theorem apply_redact_withSlots (hash : TxHash) (data : Bytes) (P : ChameleonParams)
    (tx : Transaction) (slots : Signature × Signature) :
    (redact data P).apply hash (tx.withSlots slots) =
      ((redact data P).apply hash tx).map fun p => (p.1, p.2.withSlots slots) := by
  rw [apply, apply, Transaction.redact_withSlots]
  cases tx.redact hash data P <;> rfl

theorem signed_of_apply (hs : a.isSigning = true) (h : a.apply hash tx = .ok (answer, signed)) :
    answer = .record signed ∧ tx.Signs signed ∧ a.InSlots hash signed := by
  cases a with
  | attach primary second =>
    obtain ⟨signed, hattach, hsome⟩ := bind_eq_ok.1 h
    cases hsome
    exact ⟨rfl, Transaction.signs_of_attach hattach, Transaction.slots_of_attach hattach⟩
  | sign key cosigner =>
    obtain ⟨signed, hsign, hsome⟩ := bind_eq_ok.1 h
    cases hsome
    obtain ⟨_, _, hattach⟩ := Transaction.attach_of_sign hsign
    exact ⟨rfl, Transaction.signs_of_attach hattach, Transaction.verify_of_sign hsign⟩
  | redact data P => cases hs

theorem redacts_of_apply (h : (redact data P).apply hash tx = .ok (answer, redacted)) :
    ∃ cs, answer = .checkString cs ∧ tx.Redacts hash data P cs redacted := by
  obtain ⟨p, hredact, hsome⟩ := bind_eq_ok.1 h
  cases hsome
  exact ⟨p.1, rfl, Transaction.redacts_of_redact hredact⟩

end Amendment

namespace AmendCall

/-- Two calls leave the same store in either order, and each fails after the other just as it
fails alone. -/
structure Commute (s : Store) (c d : AmendCall) : Prop where
  store : perform (perform s c) d = perform (perform s d) c
  first : Outcome.fault? (c.serial.exec (perform s d)).1 = Outcome.fault? (c.serial.exec s).1
  second : Outcome.fault? (d.serial.exec (perform s c)).1 = Outcome.fault? (d.serial.exec s).1

theorem answer_of_load (h : s.load call.hash = .ok tx) :
    (call.serial.exec s).1 = (call.amendment.apply call.hash tx).map (·.1) := by
  rw [exec_serial, conclude_fst, h]
  rfl

theorem perform_of_error (call : AmendCall) (h : s.load call.hash = .ok tx)
    (happly : call.amendment.apply call.hash tx = .error e) : perform s call = s := by
  have hcompute : call.compute (s.load call.hash) = .error e := by
    rw [compute, h]
    exact happly
  rw [perform, exec_serial, conclude, hcompute]

theorem perform_of_ok (call : AmendCall) (h : s.load call.hash = .ok tx)
    (happly : call.amendment.apply call.hash tx = .ok (answer, t)) :
    perform s call = s.put call.hash t := by
  have hcompute : call.compute (s.load call.hash) = .ok (answer, t) := by
    rw [compute, h]
    exact happly
  rw [perform, exec_serial, conclude, hcompute]

theorem exec_of_unloaded (h : s.load call.hash = .error e) :
    call.serial.exec s = (.error e, s) := by
  rw [exec_serial, conclude, compute, h]
  rfl

/-- Whether or not signing succeeds, the record differs in its slots only. -/
theorem load_of_signing (hs : a.isSigning = true) (h : s.load hash = .ok tx) :
    ∃ slots, (perform s ⟨hash, a⟩).load hash = .ok (tx.withSlots slots) := by
  cases happly : a.apply hash tx with
  | error e =>
    rw [perform_of_error ⟨hash, a⟩ h happly]
    exact ⟨tx.slots, h⟩
  | ok p =>
    obtain ⟨_, hsigns, _⟩ := Amendment.signed_of_apply hs happly
    rw [perform_of_ok ⟨hash, a⟩ h happly]
    refine ⟨p.2.slots, ?_⟩
    rw [← hsigns.eq_withSlots]
    exact s.load_put_self hash (hsigns.fits (Store.fits_of_load h))

/-- Whether or not redacting succeeds, the record keeps what signing depends on. -/
theorem load_of_redacting (hdata : Layout.Fits data) (h : s.load hash = .ok tx) :
    ∃ t, (perform s ⟨hash, .redact data P⟩).load hash = .ok t ∧ t.kind = tx.kind ∧
      t.sig2 = tx.sig2 := by
  cases happly : (Amendment.redact data P).apply hash tx with
  | error e =>
    rw [perform_of_error ⟨hash, .redact data P⟩ h happly]
    exact ⟨tx, h, rfl, rfl⟩
  | ok p =>
    obtain ⟨cs, _, hredacts⟩ := Amendment.redacts_of_apply happly
    rw [perform_of_ok ⟨hash, .redact data P⟩ h happly]
    refine ⟨p.2, s.load_put_self hash (hredacts.fits (Store.fits_of_load h) hdata),
      hredacts.terms.kind, ?_⟩
    rw [hredacts.result]

theorem perform_signing_redacting (hs : a.isSigning = true) (hdata : Layout.Fits data)
    (h : s.load hash = .ok tx) :
    perform (perform s ⟨hash, a⟩) ⟨hash, .redact data P⟩ =
      perform (perform s ⟨hash, .redact data P⟩) ⟨hash, a⟩ := by
  cases hsign : a.apply hash tx with
  | error e =>
    obtain ⟨t, ht, hkind, hslot⟩ := load_of_redacting (P := P) hdata h
    have hlater : a.apply hash t = .error e := by
      rw [Amendment.apply_of_signing hs hkind hslot, hsign]
      rfl
    rw [perform_of_error ⟨hash, a⟩ h hsign, perform_of_error ⟨hash, a⟩ ht hlater]
  | ok p =>
    obtain ⟨answer, signed⟩ := p
    obtain ⟨_, hsigns, _⟩ := Amendment.signed_of_apply hs hsign
    have hsigned := s.load_put_self hash (hsigns.fits (Store.fits_of_load h))
    have hlater := Amendment.apply_redact_withSlots hash data P tx signed.slots
    rw [← hsigns.eq_withSlots] at hlater
    cases hredact : (Amendment.redact data P).apply hash tx with
    | error e =>
      rw [hredact] at hlater
      rw [perform_of_error ⟨hash, .redact data P⟩ h hredact, perform_of_ok ⟨hash, a⟩ h hsign,
        perform_of_error ⟨hash, .redact data P⟩ hsigned hlater]
    | ok q =>
      obtain ⟨answer', redacted⟩ := q
      obtain ⟨cs, _, hredacts⟩ := Amendment.redacts_of_apply hredact
      have hredacted := s.load_put_self hash (hredacts.fits (Store.fits_of_load h) hdata)
      have hlast : a.apply hash redacted =
          .ok (.record (redacted.withSlots signed.slots), redacted.withSlots signed.slots) := by
        have hslot : redacted.sig2 = tx.sig2 := by
          rw [hredacts.result]
        rw [Amendment.apply_of_signing hs hredacts.terms.kind hslot, hsign]
        rfl
      rw [hredact] at hlater
      rw [perform_of_ok ⟨hash, a⟩ h hsign, perform_of_ok ⟨hash, .redact data P⟩ hsigned hlater,
        perform_of_ok ⟨hash, .redact data P⟩ h hredact, perform_of_ok ⟨hash, a⟩ hredacted hlast]
      have hkind : signed.kind = (redacted.withSlots signed.slots).kind :=
        hsigns.terms.kind.trans hredacts.terms.kind.symm
      have hsame : redacted.kind = (redacted.withSlots signed.slots).kind := rfl
      exact (s.put_put hash hkind).trans (s.put_put hash hsame).symm

/-- Signing and redacting a record change places, and redacting answers the same. -/
theorem commute_signing_redacting (hs : a.isSigning = true) (hdata : Layout.Fits data)
    (s : Store) (hash : TxHash) (P : ChameleonParams) :
    Commute s ⟨hash, a⟩ ⟨hash, .redact data P⟩ ∧
      ((serial ⟨hash, .redact data P⟩).exec (perform s ⟨hash, a⟩)).1 =
        ((serial ⟨hash, .redact data P⟩).exec s).1 := by
  cases h : s.load hash with
  | error e =>
    have hsign : perform s ⟨hash, a⟩ = s := congrArg Prod.snd (exec_of_unloaded h)
    have hredact : perform s ⟨hash, .redact data P⟩ = s :=
      congrArg Prod.snd (exec_of_unloaded h)
    refine ⟨⟨?_, ?_, ?_⟩, ?_⟩
    · rw [hsign, hredact, hsign]
    · rw [hredact]
    · rw [hsign]
    · rw [hsign]
  | ok tx =>
    obtain ⟨slots, hsigned⟩ := load_of_signing hs h
    obtain ⟨t, ht, hkind, hslot⟩ := load_of_redacting (P := P) hdata h
    have hsecond : ((serial ⟨hash, .redact data P⟩).exec (perform s ⟨hash, a⟩)).1 =
        ((serial ⟨hash, .redact data P⟩).exec s).1 := by
      rw [answer_of_load hsigned, answer_of_load h, Amendment.apply_redact_withSlots]
      cases (Amendment.redact data P).apply hash tx <;> rfl
    refine ⟨⟨perform_signing_redacting hs hdata h, ?_, congrArg Outcome.fault? hsecond⟩,
      hsecond⟩
    rw [answer_of_load ht, answer_of_load h, Amendment.apply_of_signing hs hkind hslot]
    cases a.apply hash tx <;> rfl

/-- Calls on different hashes change places, and each answers the same. -/
theorem commute_of_ne (c d : AmendCall) (h : c.hash ≠ d.hash) (s : Store) :
    Commute s c d ∧ (c.serial.exec (perform s d)).1 = (c.serial.exec s).1 ∧
      (d.serial.exec (perform s c)).1 = (d.serial.exec s).1 := by
  have hfirst : (c.serial.exec (perform s d)).1 = (c.serial.exec s).1 :=
    answer_congr (load_perform_of_ne h.symm s)
  have hsecond : (d.serial.exec (perform s c)).1 = (d.serial.exec s).1 :=
    answer_congr (load_perform_of_ne h s)
  exact ⟨⟨perform_comm h s, congrArg Outcome.fault? hfirst, congrArg Outcome.fault? hsecond⟩,
    hfirst, hsecond⟩

end AmendCall

namespace Ledger

/-- Two operations leave the same store in either order, and each fails after the other just as
it fails alone. -/
structure Commute (l : Ledger) (a b : Operation) : Prop where
  store : ((l.after (.operation a)).after (.operation b)).store =
    ((l.after (.operation b)).after (.operation a)).store
  first : Outcome.fault? (a.run.exec (l.after (.operation b))).1 =
    Outcome.fault? (a.run.exec l).1
  second : Outcome.fault? (b.run.exec (l.after (.operation a))).1 =
    Outcome.fault? (b.run.exec l).1

theorem answer_of_amendment (a : Amendment) (hash : TxHash) (l : Ledger) :
    ((a.operation hash).run.exec l).1 =
      ((AmendCall.serial ⟨hash, a⟩).exec l.store).1.map Amendment.Answer.ofOperation := by
  cases a with
  | attach primary second =>
    rw [AmendCall.serial_attach, Amendment.operation, Operation.run, exec_map]
    cases ((attach hash primary second).exec l).1 <;> rfl
  | sign key cosigner =>
    rw [AmendCall.serial_sign, Amendment.operation, Operation.run, exec_map]
    cases ((sign hash key cosigner).exec l).1 <;> rfl
  | redact data P =>
    rw [AmendCall.serial_redact, Amendment.operation, Operation.run, exec_map]
    cases ((redact hash data P).exec l).1 <;> rfl

theorem store_of_amendment (a : Amendment) (hash : TxHash) (l : Ledger) :
    (l.after (.operation (a.operation hash))).store = AmendCall.perform l.store ⟨hash, a⟩ := by
  rw [AmendCall.perform, after]
  cases a with
  | attach primary second =>
    rw [AmendCall.serial_attach, Amendment.operation, Operation.run, exec_map]
  | sign key cosigner =>
    rw [AmendCall.serial_sign, Amendment.operation, Operation.run, exec_map]
  | redact data P => rw [AmendCall.serial_redact, Amendment.operation, Operation.run, exec_map]

theorem commute_of_calls (h : AmendCall.Commute l.store ⟨hash, a⟩ ⟨other, b⟩) :
    l.Commute (a.operation hash) (b.operation other) := by
  constructor
  · simp only [store_of_amendment]
    exact h.store
  · simp only [answer_of_amendment, store_of_amendment, Outcome.fault?_map]
    exact h.first
  · simp only [answer_of_amendment, store_of_amendment, Outcome.fault?_map]
    exact h.second

theorem signed_of_answer (hs : a.isSigning = true) {record : Transaction}
    (h : ((a.operation hash).run.exec l).1 = .ok (.record record)) :
    (l.after (.operation (a.operation hash))).store.get hash = .ok (some record) ∧
      a.InSlots hash record := by
  rw [answer_of_amendment] at h
  rw [store_of_amendment]
  cases hload : l.store.load hash with
  | error e =>
    rw [AmendCall.exec_of_unloaded hload] at h
    cases h
  | ok tx =>
    rw [AmendCall.answer_of_load hload] at h
    cases happly : a.apply hash tx with
    | error e =>
      rw [happly] at h
      cases h
    | ok p =>
      obtain ⟨answer, signed⟩ := p
      obtain ⟨rfl, hsigns, hslots⟩ := Amendment.signed_of_apply hs happly
      rw [happly] at h
      cases h
      rw [AmendCall.perform_of_ok ⟨hash, a⟩ hload happly]
      exact ⟨l.store.get_put_self hash (hsigns.fits (Store.fits_of_load hload)), hslots⟩

end Ledger

theorem Amendment.InSlots.congr (h : a.InSlots hash tx) (hslots : t.slots = tx.slots) :
    a.InSlots hash t := by
  obtain ⟨hfirst, hsecond⟩ := Prod.ext_iff.1 hslots
  have hsig1 : t.sig1 = tx.sig1 := hfirst
  have hsig2 : t.sig2 = tx.sig2 := hsecond
  cases a with
  | attach primary second =>
    rw [InSlots, hsig1, hsig2]
    exact h
  | sign key cosigner =>
    rw [InSlots, hsig1, hsig2]
    exact h
  | redact data P => exact h

namespace Ledger

theorem slots_kept_of_run (os : List Occurrence) (hget : l.store.get hash = .ok (some tx))
    (hdeeds : ∀ d ∈ l.deeds os, d.Fits ∧ d.slots? hash = none) :
    ∃ t, (l.afterAll os).store.get hash = .ok (some t) ∧ t.slots = tx.slots ∧
      t.SameTerms tx := by
  apply record_of_run (motive := fun t => t.slots = tx.slots ∧
    t.SameTerms tx) os hget fun d hd => (hdeeds d hd).1
  · rintro d hd t t' hrewrites ⟨hslots, hterms⟩
    have hnone := (hdeeds d hd).2
    constructor
    · rw [hrewrites.slots, hnone]
      exact hslots
    · exact (hrewrites.terms (Deed.not_staged_of_slots? hnone)).trans hterms
  · exact ⟨rfl, .refl tx⟩

/-- Signing and redacting a record change places, and so do any two of these on different
hashes; and what was signed over the hash stays in its slot and verifies, and the record keeps
its keys, however it is redacted. -/
theorem rewrites_commute (l : Ledger) (hash : TxHash) (a : Amendment) :
    (∀ data P, a.isSigning = true → Layout.Fits data →
      l.Commute (a.operation hash) (.redact hash data P) ∧
        ((Operation.redact hash data P).run.exec (l.after (.operation (a.operation hash)))).1 =
          ((Operation.redact hash data P).run.exec l).1) ∧
    (∀ (other : TxHash) (b : Amendment), hash ≠ other →
      l.Commute (a.operation hash) (b.operation other) ∧
        ((a.operation hash).run.exec (l.after (.operation (b.operation other)))).1 =
          ((a.operation hash).run.exec l).1 ∧
        ((b.operation other).run.exec (l.after (.operation (a.operation hash)))).1 =
          ((b.operation other).run.exec l).1) ∧
    ∀ record os, a.isSigning = true → ((a.operation hash).run.exec l).1 = .ok (.record record) →
      (∀ d ∈ (l.after (.operation (a.operation hash))).deeds os, d.Fits ∧
        d.slots? hash = none) →
      ∃ t, ((l.after (.operation (a.operation hash))).afterAll os).store.get hash =
        .ok (some t) ∧
        t.slots = record.slots ∧ t.SameTerms record ∧ a.InSlots hash t := by
  refine ⟨?_, ?_, ?_⟩
  · intro data P hs hdata
    obtain ⟨hcommute, hanswer⟩ := AmendCall.commute_signing_redacting hs hdata l.store hash P
    refine ⟨commute_of_calls hcommute, ?_⟩
    have hredact := answer_of_amendment (.redact data P) hash
    rw [Amendment.operation] at hredact
    rw [hredact, hredact, store_of_amendment, hanswer]
  · intro other b hne
    obtain ⟨hcommute, hfirst, hsecond⟩ :=
      AmendCall.commute_of_ne ⟨hash, a⟩ ⟨other, b⟩ hne l.store
    refine ⟨commute_of_calls hcommute, ?_, ?_⟩
    · rw [answer_of_amendment, answer_of_amendment, store_of_amendment, hfirst]
    · rw [answer_of_amendment, answer_of_amendment, store_of_amendment, hsecond]
  · intro record os hs hrecord hdeeds
    obtain ⟨hget, hslots⟩ := signed_of_answer hs hrecord
    obtain ⟨t, hgett, hkept, hterms⟩ := slots_kept_of_run os hget hdeeds
    exact ⟨t, hgett, hkept, hterms, hslots.congr hkept⟩

theorem deed_of_redaction (hdata : Layout.Fits data) (l : Ledger) (other hash : TxHash)
    (P : ChameleonParams) :
    (l.deed (redaction other P data)).Fits ∧ (l.deed (redaction other P data)).slots? hash =
      none := by
  rw [redaction, deed]
  cases ((redact other data P).exec l).1 with
  | error e => exact ⟨trivial, rfl⟩
  | ok cs => exact ⟨hdata, rfl⟩

/-- The base transfer is signed and redacted in either order, and what was attached to it
outlasts a redaction. -/
theorem baseTransfer_rewrites_commute :
    (Ledger.empty.after baseTransfer).Commute (.attach baseTransferHash ones (some ones))
      (.redact baseTransferHash [98] smallParams) ∧
    (Ledger.empty.after baseTransfer).Commute (.attach baseTransferHash ones (some ones))
      (.redact (.zero 32) [98] smallParams) ∧
    ∃ t,
      (((Ledger.empty.after baseTransfer).after
        (.operation (.attach baseTransferHash ones (some ones)))).afterAll
          [redaction baseTransferHash smallParams [98]]).store.get baseTransferHash =
            .ok (some t) ∧
      t.sig1 = ones ∧ t.sig2 = ones := by
  obtain ⟨hash, hdeed⟩ := deed_of_baseTransfer
  obtain ⟨hget, hid, _⟩ := staged_of_deed hdeed baseTransferTx_fits
  cases id_baseTransferTx.symm.trans hid
  have hdata : Layout.Fits [98] := by
    decide
  have hne : baseTransferHash ≠ .zero 32 := by
    decide
  obtain ⟨hsame, hapart, hkept⟩ :=
    rewrites_commute (Ledger.empty.after baseTransfer) baseTransferHash
      (.attach ones (some ones))
  have hrecord : ((Operation.attach baseTransferHash ones (some ones)).run.exec
      (Ledger.empty.after baseTransfer)).1 =
      .ok (.record (baseTransferTx.withSlots (ones, ones))) := by
    rw [Operation.run, exec_map, outcome_of_attach hget rfl]
    rfl
  obtain ⟨t, hgett, _, _, hfirst, hsecond⟩ :=
    hkept _ [redaction baseTransferHash smallParams [98]] rfl hrecord (by
    intro d hd
    rw [deeds, deeds, List.mem_singleton] at hd
    rw [hd]
    exact deed_of_redaction hdata _ _ _ _)
  exact ⟨(hsame [98] smallParams rfl hdata).1,
    (hapart (.zero 32) (.redact [98] smallParams) hne).1, t, hgett, hfirst, hsecond ones rfl⟩

end Ledger

end RedactableLedger
