import RedactableLedger.Proofs.Lifecycle.Kinds
import RedactableLedger.Proofs.Lifecycle.Verdict

namespace RedactableLedger

variable {hash other : TxHash} {tx t t' : Transaction} {P : ChameleonParams}
  {cs cs' : CheckString} {data d d₁ d₂ : Bytes} {s s' : Store} {l : Ledger}
  {motive : Store → Prop} {deed : Deed}

namespace Store

/-- A record is in the store as putting it there leaves it. -/
structure Filed (s : Store) (hash : TxHash) (tx : Transaction) : Prop where
  record : (s.tree (.records tx.kind)).get? hash.bytes = some (Layout.transaction.encode tx)
  index : (s.tree .kindIndex).get? hash.bytes = some [tx.kind.code]

/-- The keys are in order, and all records are filed. -/
structure Tidy (s : Store) : Prop where
  ordered : s.Ordered
  filed : ∀ hash tx, s.get hash = .ok (some tx) → s.Filed hash tx

theorem filed_put (s : Store) (hash : TxHash) (tx : Transaction) :
    (s.put hash tx).Filed hash tx :=
  ⟨s.records_put hash tx, s.kindIndex_put hash tx⟩

theorem Filed.put (h : s.Filed hash tx) (hne : hash ≠ other) (t : Transaction) :
    (s.put other t).Filed hash tx := by
  constructor
  · rw [s.get?_put_of_ne hne, h.record]
  · rw [s.get?_put_of_ne hne, h.index]

theorem Ordered.put_eq_self_iff (h : s.Ordered) : s.put hash tx = s ↔ s.Filed hash tx := by
  constructor
  · intro hput
    have hfiled := s.filed_put hash tx
    rwa [hput] at hfiled
  · intro hfiled
    apply ext_tree
    intro name
    rw [tree_put, written?]
    by_cases hindex : name = .kindIndex
    · rw [if_pos hindex, hindex]
      exact (h _).insert_found hfiled.index
    · rw [if_neg hindex]
      by_cases hrecords : name = .records tx.kind
      · rw [if_pos hrecords, hrecords]
        exact (h _).insert_found hfiled.record
      · rw [if_neg hrecords]

/-- Of two records of a kind that are put under a hash the second one stays. -/
theorem put_put (s : Store) (hash : TxHash) (h : t.kind = tx.kind) :
    (s.put hash t).put hash tx = s.put hash tx := by
  apply ext_tree
  intro name
  rw [tree_put, tree_put, tree_put, written?, written?, h]
  by_cases hindex : name = .kindIndex
  · rw [if_pos hindex, if_pos hindex]
    exact Tree.insert_insert ..
  · rw [if_neg hindex, if_neg hindex]
    by_cases hrecords : name = .records tx.kind
    · rw [if_pos hrecords, if_pos hrecords]
      exact Tree.insert_insert ..
    · rw [if_neg hrecords, if_neg hrecords]

theorem tidy_empty : Tidy .empty := ⟨ordered_empty, fun _ _ hget => by cases hget⟩

theorem Tidy.put (h : s.Tidy) (hash : TxHash) (hfits : tx.Fits) : (s.put hash tx).Tidy where
  ordered := h.ordered.applyAll _
  filed other t hget := by
    by_cases ho : other = hash
    · subst ho
      cases (s.get_put_self other hfits).symm.trans hget
      exact s.filed_put other tx
    · rw [s.get_put_of_ne ho] at hget
      exact (h.filed other t hget).put ho tx

end Store

theorem Redaction.Replaces.of_put {r : Redaction} (h : r.Replaces s cs s')
    (hfits : Layout.Fits r.data)
    (hput : ∀ s hash tx, tx.Fits → motive s → motive (s.put hash tx)) (hs : motive s) :
    motive s' := by
  obtain ⟨tx, redacted, hload, hredacts, rfl⟩ := h
  exact hput _ _ _ (hredacts.fits (Store.fits_of_load hload) hfits) hs

theorem Effect.of_put (h : Effect s deed s') (hfits : deed.Fits)
    (hput : ∀ s hash tx, tx.Fits → motive s → motive (s.put hash tx)) (hs : motive s) :
    motive s' := by
  cases h with
  | nothing => exact hs
  | signed hload hsigns => exact hput _ _ _ (hsigns.fits (Store.fits_of_load hload)) hs
  | redacted hreplaces => exact hreplaces.of_put hfits hput hs
  | staged => exact hput _ _ _ hfits hs
  | announced _ _ _ hbody hreplaces =>
    have hdata := hfits.2
    rw [hbody] at hdata
    exact hput _ _ _ hfits (hreplaces.of_put hdata hput hs)

theorem Ledger.store_of_run (os : List Occurrence) (hfits : ∀ o ∈ os, o.Fits)
    (hput : ∀ s hash tx, tx.Fits → motive s → motive (s.put hash tx)) (hs : motive l.store) :
    motive (l.afterAll os).store := by
  induction os generalizing l with
  | nil => exact hs
  | cons o os ih =>
    apply ih fun o' ho' => hfits o' (List.mem_cons_of_mem _ ho')
    exact (effect_of_deed l o).of_put (fits_of_deed (hfits o List.mem_cons_self)) hput hs

namespace Transaction

/-- A redacted record is redacted further just as the record before it. -/
theorem Redacts.again (h : tx.Redacts hash d₁ P cs t) (h' : tx.Redacts hash d₂ P cs' t') :
    t.Redacts hash d₂ P cs' t' := by
  obtain ⟨old, hold, hcollide⟩ := h.collides
  obtain ⟨old', hold', hcollide'⟩ := h'.collides
  cases hold.symm.trans hold'
  obtain ⟨p, tk, r, hp, htk, hne, hr, hcs⟩ := ChameleonParams.collide_eq_ok.1 hcollide
  obtain ⟨p', tk', r', hp', htk', _, hr', hcs'⟩ := ChameleonParams.collide_eq_ok.1 hcollide'
  cases hp.symm.trans hp'
  cases htk.symm.trans htk'
  cases hr.symm.trans hr'
  have hchain := ChameleonParams.collisionScalar_chain tk r (messageScalar tx.contentHash)
    (messageScalar t.contentHash)
    (messageScalar t'.contentHash)
  refine ⟨?_, ?_, ⟨cs, ?_, ?_⟩, h.id_after, h'.id_after⟩
  · rw [h.terms.kind]
    exact h.redactable
  · rw [h'.result, h.result]
  · rw [h.result]
  · apply ChameleonParams.collide_eq_ok.2
    rw [hcs', ← hchain, hcs]
    exact ⟨p, tk, _, hp, htk, hne, CheckString.decode_ofScalar _, rfl⟩

theorem Redacts.any (h : tx.Redacts hash data P cs t) (d : Bytes) :
    ∃ cs' t', tx.Redacts hash d P cs' t' := by
  obtain ⟨q, tk, hq, htk, hne⟩ := h.trapdoor
  exact h.isRedactable.redacts h.id_before hq htk hne d

theorem Redacts.back (h : tx.Redacts hash data P cs t) :
    ∃ old, tx.checkString = some old ∧ tx.Redacts hash tx.data P old tx := by
  obtain ⟨old, hold, hcollide⟩ := h.collides
  obtain ⟨p, tk, r, hp, htk, hne, hr, _⟩ := ChameleonParams.collide_eq_ok.1 hcollide
  exact ⟨old, hold, redacts_same h.redactable hold h.id_before hp htk hne hr⟩

end Transaction

namespace Ledger

def redaction (hash : TxHash) (P : ChameleonParams) (data : Bytes) : Occurrence :=
  .operation (.redact hash data P)

/-- Redactions of the record of a hash under parameters go by the last one alone. -/
structure Memoryless (l : Ledger) (hash : TxHash) (P : ChameleonParams) (tx : Transaction) :
    Prop where
  succeeds : ∀ d, ∃ cs, ((redact hash d P).exec l).1 = .ok cs
  twice : ∀ d₁ d₂, Layout.Fits d₁ →
    ((l.after (redaction hash P d₁)).after (redaction hash P d₂)).store =
        (l.after (redaction hash P d₂)).store ∧
      ((redact hash d₂ P).exec (l.after (redaction hash P d₁))).1 =
        ((redact hash d₂ P).exec l).1
  last : ∀ (ds : List Bytes) d, (∀ d' ∈ ds, Layout.Fits d') →
    ((l.afterAll (ds.map (redaction hash P))).after (redaction hash P d)).store =
        (l.after (redaction hash P d)).store ∧
      ((redact hash d P).exec (l.afterAll (ds.map (redaction hash P)))).1 =
        ((redact hash d P).exec l).1
  same : (l.after (redaction hash P tx.data)).store = l.store.put hash tx ∧
    ((redact hash tx.data P).exec l).1.toOption = tx.checkString
  unchanged : l.store.Ordered →
    ((l.after (redaction hash P tx.data)).store = l.store ↔ l.store.Filed hash tx)
  reached : ∀ (l₀ : Ledger) (os : List Occurrence), l₀.store = .empty → (∀ o ∈ os, o.Fits) →
    (l₀.afterAll os).store = l.store → (l.after (redaction hash P tx.data)).store = l.store
  restored : ∀ ds : List Bytes, (∀ d' ∈ ds, Layout.Fits d') →
    ((l.afterAll (ds.map (redaction hash P))).after (redaction hash P tx.data)).store.get hash =
      .ok (some tx)

theorem redact_of_redacts (hget : l.store.get hash = .ok (some tx))
    (h : tx.Redacts hash d P cs t) :
    ((redact hash d P).exec l).1 = .ok cs ∧
      (l.after (redaction hash P d)).store = l.store.put hash t := by
  have hanswer : ((redact hash d P).exec l).1 = .ok cs :=
    outcome_of_amend hget (Transaction.redact_of_redacts h)
  obtain ⟨tx', t', hload, hredact, hstore⟩ := store_of_amend_ok (Prod.ext hanswer rfl)
  cases hget.symm.trans (Store.load_eq_ok.1 hload)
  cases (Transaction.redact_of_redacts h).symm.trans hredact
  refine ⟨hanswer, ?_⟩
  simp only [redaction, after, Operation.run, Action.exec_map]
  exact hstore

theorem redact_redact (hget : l.store.get hash = .ok (some tx)) (h₁ : tx.Redacts hash d₁ P cs t)
    (hd₁ : Layout.Fits d₁) (h₂ : tx.Redacts hash d₂ P cs' t') :
    (l.after (redaction hash P d₁)).store.get hash = .ok (some t) ∧
      ((redact hash d₂ P).exec (l.after (redaction hash P d₁))).1 = .ok cs' ∧
      ((l.after (redaction hash P d₁)).after (redaction hash P d₂)).store =
        l.store.put hash t' := by
  have hstore := (redact_of_redacts hget h₁).2
  have hget₁ : (l.after (redaction hash P d₁)).store.get hash = .ok (some t) := by
    rw [hstore]
    exact l.store.get_put_self hash (h₁.fits (Store.fits_of_get hget) hd₁)
  obtain ⟨hanswer, hstore₂⟩ := redact_of_redacts hget₁ (h₁.again h₂)
  refine ⟨hget₁, hanswer, ?_⟩
  rw [hstore₂, hstore]
  apply Store.put_put
  rw [h₁.terms.kind, h₂.terms.kind]

theorem redact_of_redactions (ds : List Bytes) (hds : ∀ d' ∈ ds, Layout.Fits d')
    (hget : l.store.get hash = .ok (some tx)) (h : tx.Redacts hash d P cs t) :
    ((l.afterAll (ds.map (redaction hash P))).after (redaction hash P d)).store =
      (l.after (redaction hash P d)).store ∧
      ((redact hash d P).exec (l.afterAll (ds.map (redaction hash P)))).1 =
        ((redact hash d P).exec l).1 := by
  induction ds generalizing l tx with
  | nil => exact ⟨rfl, rfl⟩
  | cons d₁ ds ih =>
    obtain ⟨cs₁, t₁, h₁⟩ := h.any d₁
    obtain ⟨hget₁, hanswer₁, hstore₁⟩ := redact_redact hget h₁ (hds d₁ List.mem_cons_self) h
    obtain ⟨hanswer, hstore⟩ := redact_of_redacts hget h
    obtain ⟨hlast, hanswerLast⟩ :=
      ih (fun d' hd' => hds d' (List.mem_cons_of_mem _ hd')) hget₁ (h₁.again h)
    rw [List.map_cons, afterAll_cons, hlast, hanswerLast, hstore₁, hanswer₁, hanswer, hstore]
    exact ⟨rfl, rfl⟩

/-- Redactions under parameters that redact a record forget each other, and the last one may
bring the record back as it was. -/
theorem memoryless_of_redact (hget : l.store.get hash = .ok (some tx))
    (hok : ((redact hash data P).exec l).1 = .ok cs) :
    l.Memoryless hash P tx := by
  obtain ⟨tx', t, hload, hredacts, _⟩ := replaces_of_redact (Prod.ext hok rfl)
  cases hget.symm.trans (Store.load_eq_ok.1 hload)
  obtain ⟨old, hold, hback⟩ := hredacts.back
  obtain ⟨hanswer, hstore⟩ := redact_of_redacts hget hback
  -- each redaction starts from a record of the same terms, so only the last one's data counts
  have hlast : ∀ (ds : List Bytes) d, (∀ d' ∈ ds, Layout.Fits d') →
      ((l.afterAll (ds.map (redaction hash P))).after (redaction hash P d)).store =
        (l.after (redaction hash P d)).store ∧
      ((redact hash d P).exec (l.afterAll (ds.map (redaction hash P)))).1 =
        ((redact hash d P).exec l).1 := by
    intro ds d hds
    obtain ⟨cs', t', h⟩ := hredacts.any d
    exact redact_of_redactions ds hds hget h
  constructor
  case succeeds =>
    intro d
    obtain ⟨cs', t', h⟩ := hredacts.any d
    exact ⟨cs', (redact_of_redacts hget h).1⟩
  case twice =>
    intro d₁ d₂ hd₁
    exact hlast [d₁] d₂ fun d' hd' => by rwa [List.mem_singleton.1 hd']
  case last => exact hlast
  case same =>
    rw [hstore, hanswer, hold]
    exact ⟨rfl, rfl⟩
  case unchanged =>
    intro hordered
    rw [hstore]
    exact hordered.put_eq_self_iff
  case reached =>
    intro l₀ os hempty hfits hreached
    have htidy : (l₀.afterAll os).store.Tidy := by
      apply store_of_run os hfits (fun s hash tx hfits hs => hs.put hash hfits)
      rw [hempty]
      exact Store.tidy_empty
    rw [hreached] at htidy
    rw [hstore]
    exact htidy.ordered.put_eq_self_iff.2 (htidy.filed hash tx hget)
  case restored =>
    intro ds hds
    rw [(hlast ds tx.data hds).1, hstore]
    exact l.store.get_put_self hash (Store.fits_of_get hget)

theorem baseTransferTx_redacts :
    baseTransferTx.Redacts baseTransferHash baseTransferTx.data smallParams
      (.ofScalar 1) baseTransferTx :=
  Transaction.redacts_same rfl rfl id_baseTransferTx decode_small rfl (by decide)
    (CheckString.decode_ofScalar 1)

/-- Redacting the base transfer twice and back leaves it as it was prepared, and redacting it to
its own data leaves the store as it was. -/
theorem baseTransfer_restored : ∃ hash,
    Ledger.empty.deed baseTransfer = .staged hash ⟨baseTransferTx, some smallParams⟩ ∧
    (((Ledger.empty.after baseTransfer).afterAll
      [redaction hash smallParams [98], redaction hash smallParams []]).after
        (redaction hash smallParams baseTransferTx.data)).store.get hash =
          .ok (some baseTransferTx) ∧
    ((Ledger.empty.after baseTransfer).after
      (redaction hash smallParams baseTransferTx.data)).store =
      (Ledger.empty.after baseTransfer).store := by
  obtain ⟨hash, hdeed⟩ := deed_of_baseTransfer
  obtain ⟨hget, hid, _⟩ := staged_of_deed hdeed baseTransferTx_fits
  cases id_baseTransferTx.symm.trans hid
  have hmemoryless :=
    memoryless_of_redact hget (redact_of_redacts hget baseTransferTx_redacts).1
  refine ⟨_, hdeed, hmemoryless.restored [[98], []] ?_,
    hmemoryless.reached .empty [baseTransfer] rfl ?_ ?_⟩
  · intro d hd
    simp only [List.mem_cons, List.not_mem_nil, or_false] at hd
    rcases hd with rfl | rfl <;> decide
  · intro o ho
    cases List.mem_singleton.1 ho
    exact baseTransfer_fits
  · rw [afterAll_cons, afterAll_nil]

/-- A ledger in which the base transfer is staged, but not in the index. -/
def baseUnindexed : Ledger :=
  { Ledger.empty with
      store := (Store.empty.put baseTransferHash baseTransferTx).unindexed
        [baseTransferHash.bytes] }

theorem get_baseUnindexed :
    baseUnindexed.store.get baseTransferHash = .ok (some baseTransferTx) := by
  have hfits : ∀ c ∈ [Store.Call.put baseTransferHash baseTransferTx], c.Fits := by
    intro c hc
    cases List.mem_singleton.1 hc
    exact baseTransferTx_fits
  have hone : Store.OneKind [.put baseTransferHash baseTransferTx] := by
    intro hash a b ha hb
    cases List.mem_singleton.1 ha
    cases List.mem_singleton.1 hb
    rfl
  have hget := (Store.indexed_callAll hfits hone).get_unindexed
    [baseTransferHash.bytes] baseTransferHash
  exact hget.trans (Store.get_put_self _ _ baseTransferTx_fits)

/-- Redacting a record that is not in the index to its own data puts it there. -/
theorem store_changed_by_same :
    baseUnindexed.store.get baseTransferHash = .ok (some baseTransferTx) ∧
    ((redact baseTransferHash baseTransferTx.data smallParams).exec baseUnindexed).1 =
      .ok (.ofScalar 1) ∧
    (baseUnindexed.after (redaction baseTransferHash smallParams baseTransferTx.data)).store ≠
      baseUnindexed.store := by
  obtain ⟨hanswer, hstore⟩ := redact_of_redacts get_baseUnindexed baseTransferTx_redacts
  refine ⟨get_baseUnindexed, hanswer, ?_⟩
  intro hsame
  have hindex := (Store.filed_put baseUnindexed.store baseTransferHash baseTransferTx).index
  rw [← hstore] at hindex
  rw [hsame, baseUnindexed, Store.get?_kindIndex_unindexed, if_pos List.mem_cons_self] at hindex
  cases hindex

end Ledger

end RedactableLedger
