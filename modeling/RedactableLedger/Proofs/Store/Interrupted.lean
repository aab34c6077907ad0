import RedactableLedger.Proofs.Store.History

namespace RedactableLedger

namespace Store

/-- A put that may have stopped before all of its single writes were done. -/
structure Attempt where
  hash : TxHash
  tx : Transaction
  done : Nat

def attempt (s : Store) (a : Attempt) : Store := s.putInterrupted a.hash a.tx a.done

def attemptAll (s : Store) (as : List Attempt) : Store := as.foldl attempt s

def file (s : Store) (hash : TxHash) (tx : Transaction) : Store :=
  s.apply (.insert (.records tx.kind) hash.bytes (Layout.transaction.encode tx))

/-- What a put can leave, depending on where it stopped. -/
inductive Remains (s : Store) (hash : TxHash) (tx : Transaction) : Store → Prop
  | nothing : Remains s hash tx s
  | unindexed : Remains s hash tx (s.file hash tx)
  | whole : Remains s hash tx (s.put hash tx)

theorem remains_attempt (s : Store) (a : Attempt) : s.Remains a.hash a.tx (s.attempt a) := by
  obtain ⟨hash, tx, done⟩ := a
  match done with
  | 0 => exact .nothing
  | 1 => exact .unindexed
  | n + 2 =>
    have hall : (putWrites hash tx).take (n + 2) = putWrites hash tx :=
      List.take_of_length_le (Nat.le_add_left 2 n)
    rw [attempt, putInterrupted, hall]
    exact .whole

variable {s s' : Store} {hash other : TxHash} {tx : Transaction} {kind : TxKind} {a : Attempt}
  {as : List Attempt}

theorem kindOf_file (s : Store) (hash : TxHash) (tx : Transaction) (other : TxHash) :
    (s.file hash tx).kindOf other = s.kindOf other := by
  rw [kindOf, kindOf, file, apply, tree_setTree_of_ne _ (by intro h; cases h)]

theorem getKind_file_self (s : Store) (hash : TxHash) (hfits : tx.Fits) :
    (s.file hash tx).getKind hash tx.kind = .ok (some tx) := by
  rw [getKind, file, apply, tree_setTree_self, Tree.get?_insert_self]
  simp only [Layout.exact_transaction.read_encode hfits]

theorem getKind_file_of_ne (s : Store) (hash : TxHash) (h : kind ≠ tx.kind) :
    (s.file hash tx).getKind hash kind = s.getKind hash kind := by
  rw [getKind, getKind, file, apply, tree_setTree_of_ne]
  rintro ⟨⟩
  exact h rfl

theorem get?_file_of_ne (s : Store) (h : other ≠ hash) (tx : Transaction) (name : TreeName) :
    ((s.file hash tx).tree name).get? other.bytes = (s.tree name).get? other.bytes :=
  get?_insert_of_ne s _ name (fun he => h (Octets.ext he)) _

/-- Looking through the kinds finds what it found before, or comes upon the new record first. -/
theorem probe_file (s : Store) (hash : TxHash) (hfits : tx.Fits) (kinds : List TxKind) :
    (s.file hash tx).probe hash kinds = s.probe hash kinds ∨
      (s.file hash tx).probe hash kinds = .ok (some tx) := by
  induction kinds with
  | nil => exact .inl rfl
  | cons kind rest ih =>
    rw [probe, probe]
    by_cases hkind : kind = tx.kind
    · rw [hkind, getKind_file_self s hash hfits]
      exact .inr rfl
    · rw [getKind_file_of_ne s hash hkind]
      split
      · exact ih
      · exact .inl rfl

theorem get_file (s : Store) (hash : TxHash) (hfits : tx.Fits) :
    (s.file hash tx).get hash = s.get hash ∨ (s.file hash tx).get hash = .ok (some tx) := by
  rw [get, get, kindOf_file]
  split
  · exact .inl rfl
  · rename_i kind _
    -- an index that has another kind keeps the new record out of sight
    by_cases hkind : kind = tx.kind
    · rw [hkind]
      exact .inr (getKind_file_self s hash hfits)
    · exact .inl (getKind_file_of_ne s hash hkind)
  · exact probe_file s hash hfits TxKind.all

theorem Remains.get (h : s.Remains hash tx s') (hfits : tx.Fits) :
    s'.get hash = s.get hash ∨ s'.get hash = .ok (some tx) := by
  cases h with
  | nothing => exact .inl rfl
  | unindexed => exact get_file s hash hfits
  | whole => exact .inr (s.get_put_self hash hfits)

theorem Remains.get?_of_ne (h : s.Remains hash tx s') (hother : other ≠ hash)
    (name : TreeName) :
    (s'.tree name).get? other.bytes = (s.tree name).get? other.bytes := by
  cases h with
  | nothing => rfl
  | unindexed => exact get?_file_of_ne s hother tx name
  | whole => exact get?_put_of_ne s hother tx name

/-- Every record and every entry of the index is read without an error. -/
structure Readable (s : Store) : Prop where
  record : ∀ hash kind, ∃ o, s.getKind hash kind = .ok o
  index : ∀ hash, ∃ o, s.kindOf hash = .ok o

theorem readable_empty : Readable empty where
  record _ kind := by cases kind <;> exact ⟨none, rfl⟩
  index _ := ⟨none, rfl⟩

theorem Readable.probe (h : s.Readable) (hash : TxHash) (kinds : List TxKind) :
    ∃ o, s.probe hash kinds = .ok o := by
  induction kinds with
  | nil => exact ⟨none, rfl⟩
  | cons kind rest ih =>
    obtain ⟨o, ho⟩ := h.record hash kind
    rw [Store.probe, ho]
    cases o with
    | none => exact ih
    | some tx => exact ⟨some tx, rfl⟩

theorem Readable.get (h : s.Readable) (hash : TxHash) : ∃ o, s.get hash = .ok o := by
  obtain ⟨o, ho⟩ := h.index hash
  rw [Store.get, ho]
  cases o with
  | none => exact h.probe hash TxKind.all
  | some kind => exact h.record hash kind

theorem Readable.file (h : s.Readable) (hash : TxHash) (hfits : tx.Fits) :
    (s.file hash tx).Readable where
  record other kind := by
    by_cases hother : other = hash
    · subst hother
      by_cases hkind : kind = tx.kind
      · rw [hkind]
        exact ⟨some tx, getKind_file_self s other hfits⟩
      · rw [getKind_file_of_ne s other hkind]
        exact h.record other kind
    · rw [getKind_congr (get?_file_of_ne s hother tx)]
      exact h.record other kind
  index other := by
    rw [kindOf_file]
    exact h.index other

theorem Readable.put (h : s.Readable) (hash : TxHash) (hfits : tx.Fits) :
    (s.put hash tx).Readable where
  record other kind := by
    have hstep := getKind_step (c := .put hash tx) s other kind hfits
    rw [call] at hstep
    rw [hstep]
    cases (Call.put hash tx).recordOf? other kind with
    | none => exact h.record other kind
    | some found => exact ⟨some found, rfl⟩
  index other := by
    have hstep := kindOf_step s other (.put hash tx)
    rw [call] at hstep
    rw [hstep]
    cases (Call.put hash tx).record? other with
    | none => exact h.index other
    | some found => exact ⟨some found.kind, rfl⟩

theorem Remains.readable (h : s.Remains hash tx s') (hs : s.Readable) (hfits : tx.Fits) :
    s'.Readable := by
  cases h with
  | nothing => exact hs
  | unindexed => exact hs.file hash hfits
  | whole => exact hs.put hash hfits

theorem Readable.attemptAll (h : s.Readable) (hfits : ∀ a ∈ as, a.tx.Fits) :
    (s.attemptAll as).Readable := by
  induction as generalizing s with
  | nil => exact h
  | cons a as ih =>
    have hfirst := (remains_attempt s a).readable h (hfits a (.head _))
    exact ih hfirst fun b hb => hfits b (.tail _ hb)

/-- After puts of which each may have stopped anywhere, one more that stops anywhere leaves its
hash with what it had or with the new transaction and all other hashes with what they had, and
the hash has the new transaction once the put is repeated. -/
theorem old_or_new_of_interrupted (past : List Attempt) (hpast : ∀ a ∈ past, a.tx.Fits)
    (a : Attempt) (hfits : a.tx.Fits) :
    (∃ before after, (empty.attemptAll past).get a.hash = .ok before ∧
        ((empty.attemptAll past).attempt a).get a.hash = .ok after ∧
          (after = before ∨ after = some a.tx)) ∧
      (∀ other, other ≠ a.hash →
        ((empty.attemptAll past).attempt a).get other = (empty.attemptAll past).get other) ∧
      (((empty.attemptAll past).attempt a).put a.hash a.tx).get a.hash = .ok (some a.tx) := by
  have hreadable := readable_empty.attemptAll hpast
  generalize empty.attemptAll past = s at hreadable ⊢
  have hremains := remains_attempt s a
  refine ⟨?_, fun other hother => get_congr (hremains.get?_of_ne hother),
    get_put_self _ a.hash hfits⟩
  obtain ⟨before, hbefore⟩ := hreadable.get a.hash
  refine ⟨before, ?_⟩
  rcases hremains.get hfits with hold | hnew
  · exact ⟨before, hbefore, hold.trans hbefore, .inl rfl⟩
  · exact ⟨some a.tx, hbefore, hnew, .inr rfl⟩

def unindexedStake : Attempt :=
  ⟨Octets.zero 32, .unsigned 0 1 [] none (.stake false (Octets.zero 32) []), 1⟩

/-- A change of settings under the same hash, put up to its record. -/
def unindexedConfig : Attempt := ⟨Octets.zero 32, .unsigned 0 1 [] none (.config 1 2 3), 1⟩

/-- Two puts of different kinds under one hash stop before the index is written: the first one
is found, and then the second one, whose kind is looked for first. -/
theorem config_found_after_stake :
    (empty.attempt unindexedStake).get (Octets.zero 32) = .ok (some unindexedStake.tx) ∧
      ((empty.attempt unindexedStake).attempt unindexedConfig).get (Octets.zero 32) =
        .ok (some unindexedConfig.tx) ∧
      (((empty.attempt unindexedStake).attempt unindexedConfig).put
        (Octets.zero 32) unindexedConfig.tx).get
        (Octets.zero 32) = .ok (some unindexedConfig.tx) := by
  have hstake : unindexedStake.tx.Fits :=
    ⟨show Layout.Fits [] by decide, show Layout.Fits [] by decide⟩
  have hconfig : unindexedConfig.tx.Fits := ⟨show Layout.Fits [] by decide, trivial⟩
  have hfound : ((empty.attempt unindexedStake).get (Octets.zero 32)).toOption =
      some (some unindexedStake.tx) := by
    decide +kernel
  have hlater : (((empty.attempt unindexedStake).attempt unindexedConfig).get
      (Octets.zero 32)).toOption ≠
      some (some unindexedStake.tx) := by
    decide +kernel
  obtain ⟨⟨before, after, hbefore, hafter, heither⟩, _, hagain⟩ :=
    old_or_new_of_interrupted [unindexedStake]
      (List.forall_mem_singleton.2 hstake) unindexedConfig hconfig
  change (empty.attempt unindexedStake).get (Octets.zero 32) = .ok before at hbefore
  change ((empty.attempt unindexedStake).attempt unindexedConfig).get (Octets.zero 32) =
    .ok after at hafter
  rw [hbefore] at hfound
  rw [hafter] at hlater
  cases hfound
  rcases heither with rfl | rfl
  · exact absurd rfl hlater
  · exact ⟨hbefore, hafter, hagain⟩

end Store

end RedactableLedger
