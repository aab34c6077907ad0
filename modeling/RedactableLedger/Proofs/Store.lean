import RedactableLedger.Lifecycle.Amend
import RedactableLedger.Proofs.Layout

namespace RedactableLedger

namespace Store

variable {s t : Store} {hash : TxHash} {tx : Transaction}

theorem get_empty (hash : TxHash) : empty.get hash = .ok none := rfl

theorem get?_insert_of_ne (s : Store) (name other : TreeName) {key key' : Bytes}
    (h : key' ≠ key) (value : Bytes) :
    ((s.apply (.insert name key value)).tree other).get? key' = (s.tree other).get? key' := by
  rw [apply]
  by_cases hn : other = name
  · subst other
    rw [tree_setTree_self, Tree.get?_insert_of_ne _ h]
  · rw [tree_setTree_of_ne _ hn]

theorem get?_put_of_ne (s : Store) {hash other : TxHash} (h : other ≠ hash) (tx : Transaction)
    (name : TreeName) :
    ((s.put hash tx).tree name).get? other.bytes = (s.tree name).get? other.bytes := by
  have hb : other.bytes ≠ hash.bytes := fun he => h (Octets.ext he)
  simp only [put, applyAll, putWrites, List.foldl_cons, List.foldl_nil]
  rw [get?_insert_of_ne _ _ _ hb, get?_insert_of_ne _ _ _ hb]

theorem kindIndex_put (s : Store) (hash : TxHash) (tx : Transaction) :
    ((s.put hash tx).tree .kindIndex).get? hash.bytes = some [tx.kind.code] := by
  simp only [put, applyAll, putWrites, List.foldl_cons, List.foldl_nil]
  rw [apply, tree_setTree_self, Tree.get?_insert_self]

theorem records_put (s : Store) (hash : TxHash) (tx : Transaction) :
    ((s.put hash tx).tree (.records tx.kind)).get? hash.bytes =
      some (Layout.transaction.encode tx) := by
  simp only [put, applyAll, putWrites, List.foldl_cons, List.foldl_nil]
  rw [apply, tree_setTree_of_ne _ (by intro h; cases h), apply, tree_setTree_self,
    Tree.get?_insert_self]

theorem kindOf_put_self (s : Store) (hash : TxHash) (tx : Transaction) :
    (s.put hash tx).kindOf hash = .ok (some tx.kind) := by
  rw [kindOf, kindIndex_put]
  simp only [List.head?_cons, Option.bind_some, TxKind.ofCode?_code]

theorem kindOf_put_of_ne (s : Store) {hash other : TxHash} (h : other ≠ hash)
    (tx : Transaction) :
    (s.put hash tx).kindOf other = s.kindOf other := by
  rw [kindOf, kindOf, s.get?_put_of_ne h]

theorem getKind_congr
    (h : ∀ name, (s.tree name).get? hash.bytes = (t.tree name).get? hash.bytes)
    (kind : TxKind) :
    s.getKind hash kind = t.getKind hash kind := by
  rw [getKind, getKind, h]

theorem probe_congr
    (h : ∀ name, (s.tree name).get? hash.bytes = (t.tree name).get? hash.bytes)
    (kinds : List TxKind) : s.probe hash kinds = t.probe hash kinds := by
  induction kinds with
  | nil => rfl
  | cons kind rest ih => rw [probe, probe, getKind_congr h kind, ih]

theorem get_congr
    (h : ∀ name, (s.tree name).get? hash.bytes = (t.tree name).get? hash.bytes) :
    s.get hash = t.get hash := by
  have hk : s.kindOf hash = t.kindOf hash := by
    rw [kindOf, kindOf, h]
  rw [get, get, hk, probe_congr h]
  simp only [getKind_congr h]

theorem get_put_of_ne (s : Store) {hash other : TxHash} (h : other ≠ hash) (tx : Transaction) :
    (s.put hash tx).get other = s.get other :=
  get_congr (s.get?_put_of_ne h tx)

theorem get_put_self (s : Store) (hash : TxHash) (h : tx.Fits) :
    (s.put hash tx).get hash = .ok (some tx) := by
  rw [get, kindOf_put_self]
  simp only [getKind, records_put, Layout.exact_transaction.read_encode h]

def written? (tx : Transaction) (name : TreeName) : Option Bytes :=
  if name = .kindIndex then some [tx.kind.code]
  else if name = .records tx.kind then some (Layout.transaction.encode tx)
  else none

theorem tree_put (s : Store) (hash : TxHash) (tx : Transaction) (name : TreeName) :
    (s.put hash tx).tree name =
      match written? tx name with
      | some value => (s.tree name).insert hash.bytes value
      | none => s.tree name := by
  simp only [put, applyAll, putWrites, List.foldl_cons, List.foldl_nil, apply, written?]
  by_cases hindex : name = .kindIndex
  · subst hindex
    rw [if_pos rfl, tree_setTree_self, tree_setTree_of_ne _ (by intro h; cases h)]
  · rw [if_neg hindex, tree_setTree_of_ne _ hindex]
    by_cases hrecords : name = .records tx.kind
    · rw [if_pos hrecords, hrecords, tree_setTree_self]
    · rw [if_neg hrecords, tree_setTree_of_ne _ hrecords]

theorem put_comm (s : Store) {hash other : TxHash} (h : hash ≠ other) (tx tx' : Transaction) :
    (s.put hash tx).put other tx' = (s.put other tx').put hash tx := by
  have hb : hash.bytes ≠ other.bytes := fun he => h (Octets.ext he)
  apply ext_tree
  intro name
  rw [tree_put, tree_put, tree_put, tree_put]
  cases written? tx name with
  | none => rfl
  | some value =>
    cases written? tx' name with
    | none => rfl
    | some value' => exact Tree.insert_comm _ hb ..

theorem load_put_of_ne (s : Store) {hash other : TxHash} (h : other ≠ hash) (tx : Transaction) :
    (s.put hash tx).load other = s.load other := by
  rw [load, load, get_put_of_ne s h]

theorem fits_of_getKind (h : s.getKind hash kind = .ok (some tx)) : tx.Fits := by
  rw [getKind] at h
  split at h
  · cases h
  · split at h
    · rename_i hr
      cases h
      exact Layout.exact_transaction.fits_of_read hr
    · cases h

theorem fits_of_probe {kinds : List TxKind} (h : s.probe hash kinds = .ok (some tx)) :
    tx.Fits := by
  induction kinds with
  | nil => cases h
  | cons kind rest ih =>
    rw [probe] at h
    split at h
    · exact ih h
    · exact fits_of_getKind h

/-- What is read from the store fits, whatever bytes the store holds. -/
theorem fits_of_get (h : s.get hash = .ok (some tx)) : tx.Fits := by
  rw [get] at h
  split at h
  · cases h
  · exact fits_of_getKind h
  · exact fits_of_probe h

theorem load_eq_ok : s.load hash = .ok tx ↔ s.get hash = .ok (some tx) := by
  rw [load]
  split <;> simp_all

theorem fits_of_load (h : s.load hash = .ok tx) : tx.Fits := fits_of_get (load_eq_ok.1 h)

theorem load_put_self (s : Store) (hash : TxHash) (h : tx.Fits) :
    (s.put hash tx).load hash = .ok tx :=
  load_eq_ok.2 (s.get_put_self hash h)

theorem load_of_absent (h : s.get hash = .ok none) : s.load hash = .error (.notFound hash) := by
  rw [load, h]

theorem ne_of_absent {other : TxHash} (h : s.get hash = .ok none)
    (hload : s.load other = .ok tx) : hash ≠ other := by
  rintro rfl
  rw [load_of_absent h] at hload
  cases hload

end Store

end RedactableLedger
