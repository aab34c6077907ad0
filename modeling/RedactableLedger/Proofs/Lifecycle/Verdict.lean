import RedactableLedger.Proofs.Lifecycle.Atomic
import RedactableLedger.Proofs.Lifecycle.Guard
import RedactableLedger.Proofs.Lifecycle.WellFormed

namespace RedactableLedger

namespace Transaction

/-- A record whose data can be replaced has a check string, and it is written in the one form of
its scalar. -/
def Committed (tx : Transaction) : Prop :=
  tx.kind.isRedactable = true → ∃ r, tx.checkString = some (.ofScalar r)

/-- The answers to a redaction, each with the guards that were passed before it. -/
inductive Verdict (tx : Transaction) (hash : TxHash) (data : Bytes) (P : ChameleonParams) :
    Outcome (CheckString × Transaction) → Prop
  | plain (hkind : tx.kind.isRedactable = false) :
      Verdict tx hash data P (.error (.validation (.notRedactable tx.kind)))
  | undecodable (hkind : tx.kind.isRedactable = true) (hdecode : P.decode = .error m) :
      Verdict tx hash data P (.error (.decoding m))
  | foreign (hkind : tx.kind.isRedactable = true) (hdecode : P.decode = .ok d)
      (hid : tx.id (some P) ≠ .ok hash) :
      Verdict tx hash data P (.error (.validation .foreignParameters))
  | untrapped (hkind : tx.kind.isRedactable = true) (hdecode : P.decode = .ok d)
      (hid : tx.id (some P) = .ok hash)
      (htk : d.tk = none) : Verdict tx hash data P (.error (.crypto .redactionNeedsTrapdoor))
  | degenerate (hkind : tx.kind.isRedactable = true) (hdecode : P.decode = .ok d)
      (hid : tx.id (some P) = .ok hash)
      (htk : d.tk = some 0) : Verdict tx hash data P (.error (.crypto .trapdoorNotInvertible))
  | redacted (hdecode : P.decode = .ok d) (htk : d.tk = some tk) (hne : tk ≠ 0)
      (hredacts : tx.Redacts hash data P cs t) : Verdict tx hash data P (.ok (cs, t))

end Transaction

/-- Every hash has nothing, or a record with the check string that its kind calls for. -/
def Store.WellFormed (s : Store) : Prop :=
  ∀ hash, s.get hash = .ok none ∨ ∃ tx, s.get hash = .ok (some tx) ∧ tx.Committed

/-- What a redaction answers and what it makes of the store, guard by guard in their order. -/
structure Redaction.Decided (r : Redaction) (s : Store) (answer : Outcome CheckString)
    (s' : Store) : Prop where
  missing : answer = .error (.notFound r.target) ↔ s.get r.target = .ok none
  plain : ∀ tx, s.get r.target = .ok (some tx) → tx.kind = .config ∨ tx.kind = .stake →
    answer = .error (.validation (.notRedactable tx.kind))
  undecodable : ∀ tx, s.get r.target = .ok (some tx) → tx.kind.isRedactable = true →
    ((∃ m, answer = .error (.decoding m)) ↔ ∃ m, r.params.decode = .error m)
  foreign : ∀ tx d, s.get r.target = .ok (some tx) → tx.kind.isRedactable = true →
    r.params.decode = .ok d →
    (answer = .error (.validation .foreignParameters) ↔ tx.id (some r.params) ≠ .ok r.target)
  untrapped : ∀ tx d, s.get r.target = .ok (some tx) → tx.kind.isRedactable = true →
    r.params.decode = .ok d →
    tx.id (some r.params) = .ok r.target →
    ((∃ c, answer = .error (.crypto c)) ↔ r.params.tk = none ∨ d.tk = some 0)
  redacted : ∀ tx d, s.get r.target = .ok (some tx) → tx.kind.isRedactable = true →
    r.params.decode = .ok d →
    tx.id (some r.params) = .ok r.target → ¬ (r.params.tk = none ∨ d.tk = some 0) →
    ∃ cs t, answer = .ok cs ∧ t = { tx with data := r.data, checkString := some cs } ∧
      t.id (some r.params) = .ok r.target ∧ s'.get r.target = .ok (some t) ∧
      ∀ other, other ≠ r.target → s'.get other = s.get other
  refused : ∀ e, answer = .error e → s' = s
  reproduced : answer ≠ .error (.crypto .collisionMismatch)

variable {hash : TxHash} {tx t : Transaction} {P : ChameleonParams}
  {d : ChameleonParams.Decoded} {old : CheckString} {data : Bytes} {e : Fault}
  {m : Malformation} {tk : Bn254.Scalar} {r : Outcome (CheckString × Transaction)} {s : Store}
  {l : Ledger}

theorem ChameleonParams.collide_of_degenerate (hdecode : P.decode = .ok d) (htk : d.tk = some 0)
    (cs : CheckString) (a b : Digest) :
    P.collide cs a b = .error (.crypto .trapdoorNotInvertible) := by
  obtain ⟨g, hk, trapdoor⟩ := d
  obtain rfl : trapdoor = some 0 := htk
  rw [collide, hdecode]
  dsimp only [Except.mapError, bind, Except.bind]
  exact if_pos rfl

namespace Transaction

theorem redact_of_plain (hkind : tx.kind.isRedactable = false) :
    tx.redact hash data P = .error (.validation (.notRedactable tx.kind)) := by
  unfold redact
  rw [hkind]

theorem redact_of_unidentified (hkind : tx.kind.isRedactable = true)
    (hc : tx.checkString = some old) (hid : tx.id (some P) = .error e) :
    tx.redact hash data P = .error e := by
  unfold redact
  rw [hkind, hc]
  dsimp only
  rw [hid]
  rfl

theorem redact_of_other {other : TxHash} (hkind : tx.kind.isRedactable = true)
    (hc : tx.checkString = some old) (hid : tx.id (some P) = .ok other) (hne : other ≠ hash) :
    tx.redact hash data P = .error (.validation .foreignParameters) := by
  unfold redact
  rw [hkind, hc]
  dsimp only
  rw [hid]
  exact if_pos hne

theorem redact_of_untrapped (hkind : tx.kind.isRedactable = true)
    (hc : tx.checkString = some old) (hid : tx.id (some P) = .ok hash)
    (htk : P.hasTrapdoor = false) :
    tx.redact hash data P = .error (.crypto .redactionNeedsTrapdoor) := by
  unfold redact
  rw [hkind, hc]
  dsimp only
  rw [hid, htk]
  exact if_neg (Decidable.not_not.2 rfl)

theorem redact_of_degenerate (hkind : tx.kind.isRedactable = true)
    (hc : tx.checkString = some old) (hid : tx.id (some P) = .ok hash)
    (hdecode : P.decode = .ok d) (htk : d.tk = some 0) :
    tx.redact hash data P = .error (.crypto .trapdoorNotInvertible) := by
  have htrapdoor := ChameleonParams.hasTrapdoor_of_decode hdecode
  rw [htk] at htrapdoor
  unfold redact
  rw [hkind, hc]
  dsimp only
  rw [hid, htrapdoor, ChameleonParams.collide_of_degenerate hdecode htk]
  exact if_neg (Decidable.not_not.2 rfl)

theorem WellFormed.committed (h : tx.WellFormed) : tx.Committed := by
  intro hkind
  have hpresent := h.present
  rw [hkind] at hpresent
  obtain ⟨cs, hc⟩ := Option.isSome_iff_exists.1 hpresent
  obtain ⟨r, hr⟩ := h.canonical cs hc
  exact ⟨r, by rw [hc, hr]⟩

theorem id_of_undecodable (hc : tx.checkString = some old) (hdecode : P.decode = .error m) :
    tx.id (some P) = .error (.decoding m) := by
  unfold Transaction.id
  rw [hc]
  dsimp only
  rw [ChameleonParams.hash, hdecode]
  rfl

/-- The guards of a redaction leave no other answers, and the last one is never failed. -/
theorem Committed.verdict (h : tx.Committed) (hash : TxHash) (data : Bytes)
    (P : ChameleonParams) :
    tx.Verdict hash data P (tx.redact hash data P) := by
  cases hkind : tx.kind.isRedactable with
  | false =>
    rw [redact_of_plain hkind]
    exact .plain hkind
  | true =>
    obtain ⟨r, hc⟩ := h hkind
    cases hdecode : P.decode with
    | error m =>
      rw [redact_of_unidentified hkind hc (id_of_undecodable hc hdecode)]
      exact .undecodable hkind hdecode
    | ok d =>
      obtain ⟨other, hid⟩ := tx.id_of_decode hc hdecode (CheckString.decode_ofScalar r)
      by_cases ho : other = hash
      · subst ho
        cases htk : d.tk with
        | none =>
          have htrapdoor := ChameleonParams.hasTrapdoor_of_decode hdecode
          rw [htk] at htrapdoor
          rw [redact_of_untrapped hkind hc hid htrapdoor]
          exact .untrapped hkind hdecode hid htk
        | some tk =>
          by_cases hzero : tk = 0
          · subst hzero
            rw [redact_of_degenerate hkind hc hid hdecode htk]
            exact .degenerate hkind hdecode hid htk
          · have hredactable : tx.IsRedactable := ⟨hkind, _, hc⟩
            obtain ⟨cs, t, hredacts⟩ := hredactable.redacts hid hdecode htk hzero data
            rw [redact_of_redacts hredacts]
            exact .redacted hdecode htk hzero hredacts
      · rw [redact_of_other hkind hc hid ho]
        apply Verdict.foreign hkind hdecode
        intro hsame
        exact ho (Except.ok.inj (hid.symm.trans hsame))

namespace Verdict

theorem ne_notFound (h : tx.Verdict hash data P r) (other : TxHash) :
    r ≠ .error (.notFound other) := by
  cases h <;> exact nofun

theorem ne_collisionMismatch (h : tx.Verdict hash data P r) :
    r ≠ .error (.crypto .collisionMismatch) := by
  cases h <;> exact nofun

theorem of_plain (h : tx.Verdict hash data P r) (hkind : tx.kind.isRedactable = false) :
    r = .error (.validation (.notRedactable tx.kind)) := by
  cases h with
  | plain => rfl
  | redacted _ _ _ hredacts => cases hkind.symm.trans hredacts.redactable
  | undecodable hother | foreign hother | untrapped hother | degenerate hother =>
    cases hkind.symm.trans hother

theorem undecodable_iff (h : tx.Verdict hash data P r) (hkind : tx.kind.isRedactable = true) :
    (∃ m, r = .error (.decoding m)) ↔ ∃ m, P.decode = .error m := by
  cases h with
  | plain hplain => cases hplain.symm.trans hkind
  | undecodable _ hdecode => exact ⟨fun _ => ⟨_, hdecode⟩, fun _ => ⟨_, rfl⟩⟩
  | foreign _ hdecode | untrapped _ hdecode | degenerate _ hdecode | redacted hdecode =>
    constructor
    · rintro ⟨m, hm⟩
      cases hm
    · rintro ⟨m, hm⟩
      cases hdecode.symm.trans hm

theorem foreign_iff (h : tx.Verdict hash data P r) (hkind : tx.kind.isRedactable = true)
    (hdecode : P.decode = .ok d) :
    r = .error (.validation .foreignParameters) ↔ tx.id (some P) ≠ .ok hash := by
  cases h with
  | plain hplain => cases hplain.symm.trans hkind
  | undecodable _ herror => cases hdecode.symm.trans herror
  | foreign _ _ hid => exact ⟨fun _ => hid, fun _ => rfl⟩
  | untrapped _ _ hid | degenerate _ _ hid => exact ⟨nofun, fun hother => absurd hid hother⟩
  | redacted _ _ _ hredacts => exact ⟨nofun, fun hother => absurd hredacts.id_before hother⟩

theorem untrapped_iff (h : tx.Verdict hash data P r) (hkind : tx.kind.isRedactable = true)
    (hdecode : P.decode = .ok d) (hid : tx.id (some P) = .ok hash) :
    (∃ c, r = .error (.crypto c)) ↔ P.tk = none ∨ d.tk = some 0 := by
  have htrapdoor := ChameleonParams.trapdoor_of_decode hdecode
  cases h with
  | plain hplain => cases hplain.symm.trans hkind
  | undecodable _ herror => cases hdecode.symm.trans herror
  | foreign _ _ hother => exact absurd hid hother
  | untrapped _ hdecode' _ htk =>
    cases hdecode.symm.trans hdecode'
    rw [htk] at htrapdoor
    exact ⟨fun _ => .inl htrapdoor, fun _ => ⟨_, rfl⟩⟩
  | degenerate _ hdecode' _ htk =>
    cases hdecode.symm.trans hdecode'
    exact ⟨fun _ => .inr htk, fun _ => ⟨_, rfl⟩⟩
  | redacted hdecode' htk hne =>
    cases hdecode.symm.trans hdecode'
    rw [htk] at htrapdoor ⊢
    constructor
    · rintro ⟨c, hc⟩
      cases hc
    · rintro (hnone | hzero)
      · cases htrapdoor.symm.trans hnone
      · exact absurd (Option.some.inj hzero) hne

theorem redacts (h : tx.Verdict hash data P r) (hkind : tx.kind.isRedactable = true)
    (hdecode : P.decode = .ok d) (hid : tx.id (some P) = .ok hash)
    (htk : ¬ (P.tk = none ∨ d.tk = some 0)) :
    ∃ cs t, r = .ok (cs, t) ∧ tx.Redacts hash data P cs t := by
  have hno := (not_congr (h.untrapped_iff hkind hdecode hid)).2 htk
  cases h with
  | plain hplain => cases hplain.symm.trans hkind
  | undecodable _ herror => cases hdecode.symm.trans herror
  | foreign _ _ hother => exact absurd hid hother
  | untrapped | degenerate => exact absurd ⟨_, rfl⟩ hno
  | redacted _ _ _ hredacts => exact ⟨_, _, rfl, hredacts⟩

end Verdict

end Transaction

theorem Store.Sound.wellFormed (h : s.Sound) : s.WellFormed := by
  intro hash
  rcases h hash with ⟨hget, _⟩ | ⟨tx, hholds⟩
  · exact .inl hget
  · exact .inr ⟨tx, hholds.get, hholds.wellFormed.committed⟩

theorem Store.WellFormed.committed (h : s.WellFormed) (hget : s.get hash = .ok (some tx)) :
    tx.Committed := by
  rcases h hash with hnone | ⟨record, hrecord, hcommitted⟩
  · cases hget.symm.trans hnone
  · cases hget.symm.trans hrecord
    exact hcommitted

theorem TxKind.isRedactable_eq_false {kind : TxKind} :
    kind.isRedactable = false ↔ kind = .config ∨ kind = .stake := by
  cases kind <;> decide

namespace Ledger

theorem exec_redact_error (hget : l.store.get hash = .ok (some tx)) :
    ((redact hash data P).exec l).1 = .error e ↔ tx.redact hash data P = .error e := by
  rw [redact, exec_amend_error, Store.load_eq_ok.2 hget]
  rfl

/-- In a store whose records are well-formed the first guard that fails decides what a redaction
answers, and if none fails it succeeds and changes the data and the check string of its
target. -/
theorem redaction_decided (l : Ledger) (hs : l.store.WellFormed) (hash : TxHash) (data : Bytes)
    (P : ChameleonParams) (hdata : Layout.Fits data) :
    (Redaction.mk hash data P).Decided l.store ((redact hash data P).exec l).1
      ((redact hash data P).exec l).2.store where
  missing := by
    constructor
    · intro hanswer
      rcases hs hash with hnone | ⟨tx, hget, hcommitted⟩
      · exact hnone
      · exact absurd ((exec_redact_error hget).1 hanswer)
          ((hcommitted.verdict hash data P).ne_notFound hash)
    · intro hnone
      exact notFound_of_amend hnone _
  plain tx hget hkind := by
    have hverdict := (hs.committed hget).verdict hash data P
    exact (exec_redact_error hget).2 (hverdict.of_plain (TxKind.isRedactable_eq_false.2 hkind))
  undecodable tx hget hkind := by
    simp only [exec_redact_error hget]
    exact ((hs.committed hget).verdict hash data P).undecodable_iff hkind
  foreign tx d hget hkind hdecode := by
    simp only [exec_redact_error hget]
    exact ((hs.committed hget).verdict hash data P).foreign_iff hkind hdecode
  untrapped tx d hget hkind hdecode hid := by
    simp only [exec_redact_error hget]
    exact ((hs.committed hget).verdict hash data P).untrapped_iff hkind hdecode hid
  redacted tx d hget hkind hdecode hid htk := by
    have hverdict := (hs.committed hget).verdict hash data P
    obtain ⟨cs, t, hredact, hredacts⟩ := hverdict.redacts hkind hdecode hid htk
    have hanswer : ((redact hash data P).exec l).1 = .ok cs := outcome_of_amend hget hredact
    obtain ⟨t', hget', hredacts'⟩ :=
      (replaces_of_redact (Prod.ext hanswer rfl)).record hget hdata
    refine ⟨cs, t', hanswer, hredacts'.result, hredacts'.id_after, hget', fun other hne => ?_⟩
    exact (replaces_of_redact (Prod.ext hanswer rfl)).frame hne
  refused e hanswer := store_of_amend_error (Prod.ext hanswer rfl)
  reproduced := by
    intro hanswer
    rcases hs hash with hnone | ⟨tx, hget, hcommitted⟩
    · cases (notFound_of_amend hnone _).symm.trans hanswer
    · exact (hcommitted.verdict hash data P).ne_collisionMismatch
        ((exec_redact_error hget).1 hanswer)

theorem baseTransfer_fits : baseTransfer.Fits := by
  intro text htext
  cases List.mem_singleton.1 htext
  decide

theorem sound_of_baseTransfer : (Ledger.empty.after baseTransfer).store.Sound :=
  sound_of_after Store.sound_empty baseTransfer_fits

/-- The base transfer is redacted under its own parameters. -/
theorem baseTransfer_redacted : ∃ hash cs t,
    ((redact hash [98] smallParams).exec (Ledger.empty.after baseTransfer)).1 = .ok cs ∧
    t = { baseTransferTx with data := [98], checkString := some cs } ∧
    ((redact hash [98] smallParams).exec (Ledger.empty.after baseTransfer)).2.store.get hash =
      .ok (some t) := by
  obtain ⟨hash, hdeed⟩ := deed_of_baseTransfer
  obtain ⟨hget, hid, _⟩ := staged_of_deed hdeed baseTransferTx_fits
  have hdecided :=
    redaction_decided (Ledger.empty.after baseTransfer) sound_of_baseTransfer.wellFormed
      hash [98] smallParams (by decide)
  obtain ⟨cs, t, hanswer, ht, _, hgett, _⟩ :=
    hdecided.redacted _ _ hget rfl decode_small hid (by
    rintro (hnone | hzero)
    · cases hnone
    · exact absurd (Option.some.inj hzero) (by decide))
  exact ⟨hash, cs, t, hanswer, ht, hgett⟩

end Ledger

end RedactableLedger
