import Mathlib.Data.Finset.Card
import Mathlib.Data.Finset.Image
import RedactableLedger.Proofs.Store.History

namespace RedactableLedger

namespace Store

open Call

def OneKind (calls : List Call) : Prop :=
  ∀ hash a b, .put hash a ∈ calls → .put hash b ∈ calls → a.kind = b.kind

def Call.hash? : Call → Option TxHash
  | put hash _ => some hash
  | _ => none

def hashes (calls : List Call) : List TxHash := calls.filterMap Call.hash?

def unindexed (s : Store) (keys : List Bytes) : Store :=
  s.setTree .kindIndex ((s.tree .kindIndex).eraseAll keys)

/-- What holds of the records of all kinds if no hash has two. -/
structure Indexed (s : Store) (calls : List Call) : Prop where
  transactionCount : s.transactionCount = (hashes calls).toFinset.card
  getKind : ∀ hash kind tx, s.getKind hash kind = .ok (some tx) →
    s.get hash = .ok (some tx) ∧ s.kindOf hash = .ok (some kind)
  get_unindexed : ∀ keys hash, (s.unindexed keys).get hash = s.get hash

variable {s : Store} {c : Call} {calls : List Call} {hash : TxHash} {kind : TxKind}
  {tx : Transaction} {key : Bytes} {o : Option Transaction}

theorem OneKind.tail (h : OneKind (c :: calls)) : OneKind calls := by
  intro hash a b ha hb
  exact h hash a b (List.mem_cons_of_mem _ ha) (List.mem_cons_of_mem _ hb)

theorem last?_recordOf? (h : OneKind calls) (hash : TxHash) (kind : TxKind) :
    last? (recordOf? hash kind) calls =
      (last? (record? hash) calls).filter (·.kind = kind) := by
  induction calls with
  | nil => rfl
  | cons c calls ih =>
    rw [last?_cons, last?_cons, ih h.tail]
    cases hlast : last? (record? hash) calls with
    | none => rfl
    | some later =>
      by_cases hkind : later.kind = kind
      · rw [Option.filter_some, if_pos (by simpa using hkind)]
        simp only [Option.some_or, Option.filter_some, hkind, decide_true, if_true]
      · -- a later call put another kind under the hash, so the one before put nothing of this
        have hnone : c.recordOf? hash kind = none := by
          rw [recordOf?, Option.filter_eq_none_iff]
          intro tx htx hk
          obtain ⟨c', hc', hf⟩ := exists_of_last? hlast
          have hput := record?_eq_some.1 htx
          have hlater := record?_eq_some.1 hf
          have hsame :=
            h hash tx later (by rw [← hput]; exact .head _)
              (by rw [← hlater]; exact .tail _ hc')
          exact hkind (hsame.symm.trans (by simpa using hk))
        rw [hnone, Option.or_none, Option.some_or]

/-- A hash that has a record only among those of the record's kind is found by looking through
the kinds. -/
theorem probe_eq_ok (h : ∀ kind, s.getKind hash kind = .ok (o.filter (·.kind = kind)))
    {kinds : List TxKind} (hkinds : ∀ tx ∈ o, tx.kind ∈ kinds) :
    s.probe hash kinds = .ok o := by
  induction kinds with
  | nil =>
    cases o with
    | none => rfl
    | some tx => exact absurd (hkinds tx rfl) List.not_mem_nil
  | cons kind rest ih =>
    rw [probe, h]
    cases o with
    | none => exact ih fun tx htx => absurd htx (Option.not_mem_none tx)
    | some tx =>
      by_cases hkind : tx.kind = kind
      · rw [Option.filter_some, if_pos (by simpa using hkind)]
      · rw [Option.filter_some, if_neg (by simpa using hkind)]
        apply ih
        intro tx' htx'
        cases htx'
        exact (List.mem_cons.1 (hkinds tx rfl)).resolve_left hkind

theorem tree_unindexed (s : Store) (keys : List Bytes) {name : TreeName}
    (h : name ≠ .kindIndex) :
    (s.unindexed keys).tree name = s.tree name := tree_setTree_of_ne s h _

theorem getKind_unindexed (s : Store) (keys : List Bytes) (hash : TxHash) (kind : TxKind) :
    (s.unindexed keys).getKind hash kind = s.getKind hash kind := by
  rw [getKind, getKind, tree_unindexed s keys (by intro h; cases h)]

theorem get?_kindIndex_unindexed (s : Store) (keys : List Bytes) (key : Bytes) :
    ((s.unindexed keys).tree .kindIndex).get? key = if key ∈ keys then none
      else (s.tree .kindIndex).get? key := by
  rw [unindexed, tree_setTree_self, Tree.get?_eraseAll]

/-- Where every hash has a record of one kind, the index may be erased. -/
theorem get_unindexed (hget : s.get hash = .ok o)
    (hkinds : ∀ kind, s.getKind hash kind = .ok (o.filter (·.kind = kind)))
    (keys : List Bytes) :
    (s.unindexed keys).get hash = s.get hash := by
  by_cases hkey : hash.bytes ∈ keys
  · -- the hash is looked up without the index, which finds its only record
    have hkind : (s.unindexed keys).kindOf hash = .ok none := by
      rw [kindOf, get?_kindIndex_unindexed, if_pos hkey]
    have hprobe : (s.unindexed keys).probe hash TxKind.all = .ok o := by
      apply probe_eq_ok
      · intro kind
        rw [getKind_unindexed, hkinds]
      · intro tx _
        exact TxKind.mem_all _
    rw [get, hkind, hprobe, hget]
  · apply get_congr
    intro name
    by_cases hname : name = .kindIndex
    · rw [hname, get?_kindIndex_unindexed, if_neg hkey]
    · rw [tree_unindexed s keys hname]

def Ordered (s : Store) : Prop := ∀ name, (s.tree name).Ordered

theorem ordered_empty : Ordered empty := by
  intro name
  cases name with
  | records kind => cases kind <;> exact Tree.ordered_empty
  | _ => exact Tree.ordered_empty

theorem Ordered.setTree (h : s.Ordered) (name : TreeName) {t : Tree} (ht : t.Ordered) :
    (s.setTree name t).Ordered := by
  intro other
  by_cases ho : other = name
  · rw [ho, tree_setTree_self]
    exact ht
  · rw [tree_setTree_of_ne s ho]
    exact h other

theorem Ordered.apply (h : s.Ordered) (w : Write) : (s.apply w).Ordered := by
  cases w with
  | insert name key value => exact h.setTree name ((h name).insert key value)
  | clear name => exact h.setTree name Tree.ordered_empty

theorem Ordered.applyAll (h : s.Ordered) (writes : List Write) :
    (s.applyAll writes).Ordered := by
  induction writes generalizing s with
  | nil => exact h
  | cons w writes ih => exact ih (h.apply w)

theorem Ordered.callAll (h : s.Ordered) (calls : List Call) : (s.callAll calls).Ordered := by
  induction calls generalizing s with
  | nil => exact h
  | cons c calls ih =>
    apply ih
    cases c with
    | put hash tx => exact h.applyAll (putWrites hash tx)
    | putBlockHeader header => exact h.applyAll (headerWrites header)
    | putLastBlockHeader header => exact h.applyAll (lastHeaderWrites header)

def Call.Records (kind : TxKind) (key : Bytes) (c : Call) : Prop :=
  ∃ hash tx, c = put hash tx ∧ tx.kind = kind ∧ hash.bytes = key

theorem mem_keys_call : key ∈ ((s.call c).tree (.records kind)).keys ↔
    c.Records kind key ∨ key ∈ (s.tree (.records kind)).keys := by
  by_cases hname : .records kind ∈ c.namespaces
  · obtain ⟨hash, tx, rfl, rfl⟩ : ∃ hash tx, c = .put hash tx ∧ tx.kind = kind := by
      cases c with
      | put hash tx =>
        obtain _ | ⟨_, hindex⟩ := hname
        · exact ⟨hash, tx, rfl, rfl⟩
        · cases List.mem_singleton.1 hindex
      | _ => cases List.mem_singleton.1 hname
    have hwritten : written? tx (.records tx.kind) = some (Layout.transaction.encode tx) := by
      rw [written?, if_neg (by intro h; cases h), if_pos rfl]
    rw [call, tree_put, hwritten]
    apply Tree.mem_keys_place.trans
    apply or_congr_left
    constructor
    · rintro rfl
      exact ⟨hash, tx, rfl, rfl, rfl⟩
    · rintro ⟨_, _, hput, _, rfl⟩
      cases hput
      rfl
  · have hnone : ¬ c.Records kind key := by
      rintro ⟨hash, tx, rfl, rfl, _⟩
      exact hname (.head _)
    rw [tree_call s hname]
    exact (or_iff_right hnone).symm

/-- The keys of the records of a kind are those that the calls put records of that kind
under. -/
theorem mem_keys_callAll : key ∈ ((s.callAll calls).tree (.records kind)).keys ↔
    (∃ c ∈ calls, c.Records kind key) ∨ key ∈ (s.tree (.records kind)).keys := by
  induction calls generalizing s with
  | nil => exact (or_iff_right fun ⟨_, hc, _⟩ => List.not_mem_nil hc).symm
  | cons c calls ih =>
    apply ih.trans
    rw [mem_keys_call, List.exists_mem_cons_iff]
    exact or_left_comm.trans or_assoc.symm

theorem mem_keys_callAll_empty : key ∈ ((empty.callAll calls).tree (.records kind)).keys ↔
    ∃ hash tx, .put hash tx ∈ calls ∧ tx.kind = kind ∧ hash.bytes = key := by
  have hempty : key ∉ (empty.tree (.records kind)).keys := by
    cases kind <;> exact List.not_mem_nil
  rw [mem_keys_callAll, or_iff_left hempty]
  constructor
  · rintro ⟨_, hc, hash, tx, rfl, hrecords⟩
    exact ⟨hash, tx, hc, hrecords⟩
  · rintro ⟨hash, tx, hc, hrecords⟩
    exact ⟨_, hc, hash, tx, rfl, hrecords⟩

def recordKeys (s : Store) : List Bytes :=
  TxKind.all.flatMap fun kind => (s.tree (.records kind)).keys

theorem transactionCount_eq (s : Store) : s.transactionCount = s.recordKeys.length := by
  simp only [transactionCount, recordKeys, TxKind.all, List.foldl_cons, List.foldl_nil,
    List.flatMap_cons, List.flatMap_nil, List.length_append, List.length_nil, Tree.length_keys]
  omega

theorem nodup_recordKeys (h : OneKind calls) : (empty.callAll calls).recordKeys.Nodup := by
  apply List.nodup_flatMap.2
  constructor
  · intro kind _
    exact (ordered_empty.callAll calls _).nodup
  · have hkinds : TxKind.all.Nodup := by decide
    apply List.Pairwise.imp _ hkinds
    intro a b hab key ha hb
    obtain ⟨hash, tx, hmem, rfl, rfl⟩ := mem_keys_callAll_empty.1 ha
    obtain ⟨hash', tx', hmem', rfl, hbytes⟩ := mem_keys_callAll_empty.1 hb
    cases Octets.ext hbytes
    exact hab (h hash tx tx' hmem hmem')

theorem mem_hashes : hash ∈ hashes calls ↔ ∃ tx, .put hash tx ∈ calls := by
  rw [hashes, List.mem_filterMap]
  constructor
  · rintro ⟨c, hc, hhash⟩
    cases c with
    | put other tx =>
      cases hhash
      exact ⟨tx, hc⟩
    | _ => cases hhash
  · rintro ⟨tx, hc⟩
    exact ⟨_, hc, rfl⟩

theorem mem_recordKeys : key ∈ (empty.callAll calls).recordKeys ↔
    ∃ hash ∈ hashes calls, hash.bytes = key := by
  rw [recordKeys, List.mem_flatMap]
  constructor
  · rintro ⟨kind, _, hkey⟩
    obtain ⟨hash, tx, hmem, _, hbytes⟩ := mem_keys_callAll_empty.1 hkey
    exact ⟨hash, mem_hashes.2 ⟨tx, hmem⟩, hbytes⟩
  · rintro ⟨hash, hhash, hbytes⟩
    obtain ⟨tx, hmem⟩ := mem_hashes.1 hhash
    exact ⟨tx.kind, TxKind.mem_all _, mem_keys_callAll_empty.2 ⟨hash, tx, hmem, rfl, hbytes⟩⟩

/-- If no hash is put with two kinds, there are as many records as hashes. -/
theorem transactionCount_callAll (h : OneKind calls) :
    (empty.callAll calls).transactionCount = (hashes calls).toFinset.card := by
  have hkeys : (empty.callAll calls).recordKeys.toFinset =
      (hashes calls).toFinset.image Octets.bytes := by
    ext key
    rw [List.mem_toFinset, mem_recordKeys, Finset.mem_image]
    simp only [List.mem_toFinset]
  have hinjective : Function.Injective (@Octets.bytes 32) := fun a b hab => Octets.ext hab
  rw [transactionCount_eq, ← List.toFinset_card_of_nodup (nodup_recordKeys h), hkeys,
    Finset.card_image_of_injective _ hinjective]

theorem indexed_callAll (hfits : ∀ c ∈ calls, c.Fits) (h : OneKind calls) :
    (empty.callAll calls).Indexed calls where
  transactionCount := transactionCount_callAll h
  getKind hash kind tx hkind := by
    rw [getKind_callAll hfits, last?_recordOf? h] at hkind
    obtain ⟨hlast, hk⟩ := Option.filter_eq_some_iff.1 (Except.ok.inj hkind)
    rw [get_callAll hfits, kindOf_callAll, hlast, Option.map_some, of_decide_eq_true hk]
    exact ⟨rfl, rfl⟩
  get_unindexed keys hash := by
    apply get_unindexed (get_callAll hfits hash)
    intro kind
    rw [getKind_callAll hfits, last?_recordOf? h]

end Store

end RedactableLedger
