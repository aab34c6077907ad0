import RedactableLedger.Proofs.Canonical
import RedactableLedger.Proofs.Store
import RedactableLedger.Proofs.Store.Tree

namespace RedactableLedger

theorem TreeName.ofBucket?_bucket (name : TreeName) : ofBucket? name.bucket = some name := by
  cases name with
  | records kind => cases kind <;> rfl
  | _ => rfl

theorem TreeName.bucket_injective {a b : TreeName} (h : a.bucket = b.bucket) : a = b :=
  Option.some.inj (by rw [← ofBucket?_bucket a, ← ofBucket?_bucket b, h])

namespace Store

/-- A call that writes to the store. -/
inductive Call where
  | put (hash : TxHash) (tx : Transaction)
  | putBlockHeader (h : BlockHeader)
  | putLastBlockHeader (h : BlockHeader)

namespace Call

def record? (hash : TxHash) : Call → Option Transaction
  | put other tx => if other = hash then some tx else none
  | _ => none

def recordOf? (hash : TxHash) (kind : TxKind) (c : Call) : Option Transaction :=
  (c.record? hash).filter (·.kind = kind)

def header? (hash : Digest) : Call → Option BlockHeader
  | putBlockHeader h => if h.hash = hash then some h else none
  | _ => none

def lastHeader? : Call → Option BlockHeader
  | putLastBlockHeader h => some h
  | _ => none

def namespaces : Call → List TreeName
  | put _ tx => [.records tx.kind, .kindIndex]
  | putBlockHeader _ => [.blockHeaders]
  | putLastBlockHeader _ => [.lastBlockHeader]

/-- The byte strings of a call are short enough for their lengths to be written. -/
def Fits : Call → Prop
  | put _ tx => tx.Fits
  | _ => True

def last? (f : Call → Option α) (calls : List Call) : Option α := calls.reverse.findSome? f

variable {calls : List Call}

theorem last?_cons (f : Call → Option α) (c : Call) (calls : List Call) :
    last? f (c :: calls) = (last? f calls).or (f c) := by
  simp only [last?, List.reverse_cons, List.findSome?_append, List.findSome?_singleton]

theorem last?_map (f : Call → Option α) (g : α → β) (calls : List Call) :
    last? (fun c => (f c).map g) calls = (last? f calls).map g := List.map_findSome?.symm

theorem exists_of_last? {f : Call → Option α} {a : α} (h : last? f calls = some a) :
    ∃ c ∈ calls, f c = some a := by
  obtain ⟨c, hc, hf⟩ := List.exists_of_findSome?_eq_some h
  exact ⟨c, List.mem_reverse.1 hc, hf⟩

theorem record?_eq_some {hash : TxHash} {tx : Transaction} {c : Call} :
    c.record? hash = some tx ↔ c = put hash tx := by
  cases c with
  | put other tx' =>
    simp only [record?, Option.ite_none_right_eq_some, Option.some.injEq, put.injEq]
  | _ => constructor <;> intro h <;> cases h

end Call

open Call

def call (s : Store) : Call → Store
  | .put hash tx => s.put hash tx
  | .putBlockHeader h => s.putBlockHeader h
  | .putLastBlockHeader h => s.putLastBlockHeader h

def callAll (s : Store) (calls : List Call) : Store := calls.foldl call s

variable {s : Store} {c : Call} {calls : List Call} {hash : TxHash} {kind : TxKind}
  {name : TreeName}

theorem callAll_append (s : Store) (calls calls' : List Call) :
    s.callAll (calls ++ calls') = (s.callAll calls).callAll calls' := List.foldl_append

/-- A view that every call sets or leaves alone is what the last call that sets it made of
it. -/
theorem view_callAll (view : Store → β) {f : Call → Option β}
    (hstep : ∀ s, ∀ c ∈ calls, view (s.call c) = (f c).getD (view s)) (s : Store) :
    view (s.callAll calls) = (last? f calls).getD (view s) := by
  induction calls generalizing s with
  | nil => rfl
  | cons c calls ih =>
    have hrest := ih (fun s c hc => hstep s c (List.mem_cons_of_mem _ hc)) (s.call c)
    rw [callAll, List.foldl_cons, ← callAll, hrest, hstep s c List.mem_cons_self, last?_cons,
      Option.getD_or]

theorem read_callAll (read : Store → Except StoreFault (Option α)) {f : Call → Option α}
    (hempty : read empty = .ok none)
    (hstep : ∀ s, ∀ c ∈ calls, read (s.call c) =
      ((f c).map fun a => .ok (some a)).getD (read s)) :
    read (empty.callAll calls) = .ok (last? f calls) := by
  rw [view_callAll read hstep, last?_map, hempty]
  cases last? f calls with
  | none => rfl
  | some a => rfl

theorem tree_call (s : Store) (h : name ∉ c.namespaces) :
    (s.call c).tree name = s.tree name := by
  cases c with
  | put hash tx =>
    have hindex : name ≠ .kindIndex := fun he => h (by rw [he]; exact .tail _ (.head _))
    have hrecords : name ≠ .records tx.kind := fun he => h (by rw [he]; exact .head _)
    rw [call, tree_put, written?, if_neg hindex, if_neg hrecords]
  | putBlockHeader h' => exact tree_setTree_of_ne _ (List.ne_of_not_mem_cons h) _
  | putLastBlockHeader h' =>
    have hne := List.ne_of_not_mem_cons h
    exact (tree_setTree_of_ne _ hne _).trans (tree_setTree_of_ne _ hne _)

/-- A call leaves alone whatever is read from other namespaces than those that it writes to. -/
structure Spares (s : Store) (c : Call) : Prop where
  getKind : ∀ hash kind, .records kind ∉ c.namespaces →
    (s.call c).getKind hash kind = s.getKind hash kind
  kindOf : ∀ hash, .kindIndex ∉ c.namespaces → (s.call c).kindOf hash = s.kindOf hash
  get : ∀ hash, .kindIndex ∉ c.namespaces → (∀ kind, .records kind ∉ c.namespaces) →
    (s.call c).get hash = s.get hash ∧ (s.call c).contains hash = s.contains hash
  transactionCount : (∀ kind, .records kind ∉ c.namespaces) →
    (s.call c).transactionCount = s.transactionCount
  getBlockHeader : ∀ hash, .blockHeaders ∉ c.namespaces →
    (s.call c).getBlockHeader hash = s.getBlockHeader hash
  blockHeaderCount : .blockHeaders ∉ c.namespaces →
    (s.call c).blockHeaderCount = s.blockHeaderCount
  getLastBlockHeader : .lastBlockHeader ∉ c.namespaces →
    (s.call c).getLastBlockHeader = s.getLastBlockHeader

theorem getKind_call (s : Store) (hash : TxHash) (h : .records kind ∉ c.namespaces) :
    (s.call c).getKind hash kind = s.getKind hash kind := by
  rw [getKind, getKind, tree_call s h]

theorem kindOf_call (s : Store) (hash : TxHash) (h : .kindIndex ∉ c.namespaces) :
    (s.call c).kindOf hash = s.kindOf hash := by
  rw [kindOf, kindOf, tree_call s h]

theorem get_call (s : Store) (hash : TxHash) (hindex : .kindIndex ∉ c.namespaces)
    (hrecords : ∀ kind, .records kind ∉ c.namespaces) : (s.call c).get hash = s.get hash := by
  have hprobe : ∀ kinds, (s.call c).probe hash kinds = s.probe hash kinds := by
    intro kinds
    induction kinds with
    | nil => rfl
    | cons kind rest ih => rw [probe, probe, getKind_call s hash (hrecords kind), ih]
  rw [get, get, kindOf_call s hash hindex, hprobe]
  simp only [fun kind => getKind_call s hash (hrecords kind)]

theorem getBlockHeader_call (s : Store) (hash : Digest) (h : .blockHeaders ∉ c.namespaces) :
    (s.call c).getBlockHeader hash = s.getBlockHeader hash := by
  rw [getBlockHeader, getBlockHeader, tree_call s h]

theorem spares (s : Store) (c : Call) : s.Spares c where
  getKind hash _ h := getKind_call s hash h
  kindOf hash h := kindOf_call s hash h
  get hash hindex hrecords := by
    have hget := get_call s hash hindex hrecords
    rw [contains, contains, hget]
    exact ⟨rfl, rfl⟩
  transactionCount h := by
    simp only [transactionCount, fun kind => tree_call s (h kind)]
  getBlockHeader hash h := getBlockHeader_call s hash h
  blockHeaderCount h := by rw [blockHeaderCount, blockHeaderCount, tree_call s h]
  getLastBlockHeader h := by rw [getLastBlockHeader, getLastBlockHeader, tree_call s h]

/-- The store has what was put into it last. -/
structure Refines (s : Store) (calls : List Call) : Prop where
  get : ∀ hash, s.get hash = .ok (last? (record? hash) calls)
  contains : ∀ hash, s.contains hash = .ok (last? (record? hash) calls).isSome
  kindOf : ∀ hash, s.kindOf hash = .ok ((last? (record? hash) calls).map (·.kind))
  getKind : ∀ hash kind, s.getKind hash kind = .ok (last? (recordOf? hash kind) calls)
  getBlockHeader : ∀ hash, s.getBlockHeader hash = .ok (last? (header? hash) calls)
  getLastBlockHeader : s.getLastBlockHeader = .ok (last? lastHeader? calls)
  lastBlockHeader_size : (s.tree .lastBlockHeader).size ≤ 1

theorem get_step (s : Store) (hash : TxHash) (hfits : c.Fits) :
    (s.call c).get hash = ((c.record? hash).map fun tx => .ok (some tx)).getD (s.get hash) := by
  cases c with
  | put other tx =>
    by_cases ho : other = hash
    · rw [record?, if_pos ho, ← ho]
      exact s.get_put_self other hfits
    · rw [record?, if_neg ho]
      exact s.get_put_of_ne (Ne.symm ho) tx
  | _ => exact get_call s hash (by simp [namespaces]) (by simp [namespaces])

theorem kindOf_step (s : Store) (hash : TxHash) (c : Call) :
    (s.call c).kindOf hash =
      (((c.record? hash).map (·.kind)).map fun kind => .ok (some kind)).getD
        (s.kindOf hash) := by
  cases c with
  | put other tx =>
    by_cases ho : other = hash
    · rw [record?, if_pos ho, ← ho]
      exact s.kindOf_put_self other tx
    · rw [record?, if_neg ho]
      exact s.kindOf_put_of_ne (Ne.symm ho) tx
  | _ => exact kindOf_call s hash (by simp [namespaces])

theorem getKind_step (s : Store) (hash : TxHash) (kind : TxKind) (hfits : c.Fits) :
    (s.call c).getKind hash kind =
      ((c.recordOf? hash kind).map fun tx => .ok (some tx)).getD (s.getKind hash kind) := by
  cases c with
  | put other tx =>
    by_cases ho : other = hash
    · by_cases hkind : tx.kind = kind
      · rw [recordOf?, record?, if_pos ho, Option.filter_some, if_pos (by simpa using hkind),
          ← ho, ← hkind, call, getKind, records_put]
        simp only [Layout.exact_transaction.read_encode hfits]
        rfl
      · rw [recordOf?, record?, if_pos ho, Option.filter_some, if_neg (by simpa using hkind)]
        apply getKind_call
        simpa [namespaces] using Ne.symm hkind
    · rw [recordOf?, record?, if_neg ho]
      exact getKind_congr (s.get?_put_of_ne (Ne.symm ho) tx) kind
  | _ => exact getKind_call s hash (by simp [namespaces])

theorem getBlockHeader_step (s : Store) (hash : Digest) (c : Call) :
    (s.call c).getBlockHeader hash =
      ((c.header? hash).map fun h => .ok (some h)).getD (s.getBlockHeader hash) := by
  cases c with
  | putBlockHeader h =>
    have htree : (s.call (.putBlockHeader h)).tree .blockHeaders =
        (s.tree .blockHeaders).insert h.hash.bytes (Layout.blockHeader.encode h) :=
      tree_setTree_self s .blockHeaders _
    by_cases hh : h.hash = hash
    · rw [getBlockHeader, htree, header?, if_pos hh, ← hh, Tree.get?_insert_self, readHeader]
      simp only [Layout.exact_blockHeader.read_encode trivial]
      rfl
    · have hb : hash.bytes ≠ h.hash.bytes := fun he => hh (Octets.ext he.symm)
      rw [getBlockHeader, htree, header?, if_neg hh, Tree.get?_insert_of_ne _ hb]
      rfl
  | _ => exact getBlockHeader_call s hash (by simp [namespaces])

def lastTree (h : BlockHeader) : Tree :=
  Tree.insert .empty h.hash.bytes (Layout.blockHeader.encode h)

theorem lastBlockHeader_step (s : Store) (c : Call) :
    (s.call c).tree .lastBlockHeader =
      (c.lastHeader?.map lastTree).getD (s.tree .lastBlockHeader) := by
  cases c with
  | putLastBlockHeader h =>
    rw [call, putLastBlockHeader, lastHeaderWrites, applyAll, List.foldl_cons, List.foldl_cons,
      List.foldl_nil, Store.apply, Store.apply, tree_setTree_self, tree_setTree_self]
    rfl
  | _ => exact tree_call s (by simp [namespaces])

theorem get_callAll (hfits : ∀ c ∈ calls, c.Fits) (hash : TxHash) :
    (empty.callAll calls).get hash = .ok (last? (record? hash) calls) := by
  apply read_callAll (·.get hash) rfl
  intro s c hc
  exact get_step s hash (hfits c hc)

theorem kindOf_callAll (calls : List Call) (hash : TxHash) :
    (empty.callAll calls).kindOf hash = .ok ((last? (record? hash) calls).map (·.kind)) := by
  rw [← last?_map]
  apply read_callAll (·.kindOf hash) rfl
  intro s c _
  exact kindOf_step s hash c

theorem getKind_callAll (hfits : ∀ c ∈ calls, c.Fits) (hash : TxHash) (kind : TxKind) :
    (empty.callAll calls).getKind hash kind = .ok (last? (recordOf? hash kind) calls) := by
  apply read_callAll (·.getKind hash kind)
  · cases kind <;> rfl
  · intro s c hc
    exact getKind_step s hash kind (hfits c hc)

theorem getBlockHeader_callAll (calls : List Call) (hash : Digest) :
    (empty.callAll calls).getBlockHeader hash = .ok (last? (header? hash) calls) := by
  apply read_callAll (·.getBlockHeader hash) rfl
  intro s c _
  exact getBlockHeader_step s hash c

theorem lastBlockHeader_callAll (calls : List Call) :
    (empty.callAll calls).tree .lastBlockHeader =
      ((last? lastHeader? calls).map lastTree).getD .empty := by
  rw [← last?_map]
  apply view_callAll (·.tree .lastBlockHeader)
  intro s c _
  exact lastBlockHeader_step s c

theorem getLastBlockHeader_callAll (calls : List Call) :
    (empty.callAll calls).getLastBlockHeader = .ok (last? lastHeader? calls) := by
  rw [getLastBlockHeader, lastBlockHeader_callAll]
  cases last? lastHeader? calls with
  | none => rfl
  | some h =>
    have hfirst : (lastTree h).first? = some (Layout.blockHeader.encode h) := rfl
    rw [Option.map_some, Option.getD_some, hfirst, readHeader]
    simp only [Layout.exact_blockHeader.read_encode trivial]

theorem size_lastBlockHeader_callAll (calls : List Call) :
    ((empty.callAll calls).tree .lastBlockHeader).size ≤ 1 := by
  rw [lastBlockHeader_callAll]
  cases last? lastHeader? calls with
  | none => exact Nat.zero_le 1
  | some h => exact Nat.le_refl 1

theorem refines_callAll (hfits : ∀ c ∈ calls, c.Fits) :
    (empty.callAll calls).Refines calls where
  get := get_callAll hfits
  contains hash := by
    rw [contains, get_callAll hfits]
    rfl
  kindOf := kindOf_callAll calls
  getKind := getKind_callAll hfits
  getBlockHeader := getBlockHeader_callAll calls
  getLastBlockHeader := getLastBlockHeader_callAll calls
  lastBlockHeader_size := size_lastBlockHeader_callAll calls

end Store

end RedactableLedger
