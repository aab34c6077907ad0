import RedactableLedger.Store.Tree

namespace RedactableLedger

namespace Tree

def keys (t : Tree) : List Bytes := t.entries.map (·.1)

/-- The entries are in the order of their keys, and no key has two. -/
def Ordered (t : Tree) : Prop := t.keys.Pairwise (· < ·)

variable {t : Tree} {key other value : Bytes} {es : List (Bytes × Bytes)}

theorem length_keys (t : Tree) : t.keys.length = t.size := List.length_map _

theorem mem_keys_place :
    other ∈ (place key value es).map (·.1) ↔ other = key ∨ other ∈ es.map (·.1) := by
  induction es with
  | nil => simp [place]
  | cons e rest ih =>
    obtain ⟨k, v⟩ := e
    by_cases hk : k = key
    · simp [place, hk]
    · by_cases hlt : key < k
      · simp [place, hk, hlt]
      · rw [place, if_neg hk, if_neg hlt, List.map_cons, List.mem_cons, ih, List.map_cons,
          List.mem_cons]
        exact or_left_comm

theorem pairwise_keys_place (h : (es.map (·.1)).Pairwise (· < ·)) :
    ((place key value es).map (·.1)).Pairwise (· < ·) := by
  induction es with
  | nil => exact List.pairwise_singleton ..
  | cons e rest ih =>
    obtain ⟨k, v⟩ := e
    obtain ⟨hfirst, hrest⟩ := List.pairwise_cons.1 h
    obtain hlt | rfl | hlt := Std.lt_trichotomy k key
    · -- the entry goes behind the first one
      have hne : k ≠ key := fun he => List.lt_irrefl key (he ▸ hlt)
      have hnlt : ¬ key < k := fun hgt => List.lt_irrefl k (List.lt_trans hlt hgt)
      rw [place, if_neg hne, if_neg hnlt]
      apply List.pairwise_cons.2 ⟨?_, ih hrest⟩
      intro other hother
      rcases mem_keys_place.1 hother with rfl | hmem
      · exact hlt
      · exact hfirst other hmem
    · rw [place, if_pos rfl]
      exact h
    · have hne : k ≠ key := fun he => List.lt_irrefl key (he ▸ hlt)
      rw [place, if_neg hne, if_pos hlt]
      apply List.pairwise_cons.2 ⟨?_, h⟩
      intro other hother
      rcases List.mem_cons.1 hother with rfl | hmem
      · exact hlt
      · exact List.lt_trans hlt (hfirst other hmem)

theorem Ordered.insert (h : t.Ordered) (key value : Bytes) :
    (t.insert key value).Ordered := pairwise_keys_place h

theorem ordered_empty : Ordered empty := List.Pairwise.nil

theorem Ordered.nodup (h : t.Ordered) : t.keys.Nodup := by
  apply List.Pairwise.imp _ h
  intro a b hlt he
  exact List.lt_irrefl b (he ▸ hlt)

theorem place_place (key value value' : Bytes) (es : List (Bytes × Bytes)) :
    place key value' (place key value es) = place key value' es := by
  induction es with
  | nil => rw [place, place, place, if_pos rfl]
  | cons e rest ih =>
    obtain ⟨k, v⟩ := e
    by_cases hk : k = key
    · rw [place, if_pos hk, place, if_pos rfl, place, if_pos hk]
    · by_cases hlt : key < k
      · rw [place, if_neg hk, if_pos hlt, place, if_pos rfl, place, if_neg hk, if_pos hlt]
      · rw [place, if_neg hk, if_neg hlt, place, if_neg hk, if_neg hlt, ih, place, if_neg hk,
          if_neg hlt]

theorem insert_insert (t : Tree) (key value value' : Bytes) :
    (t.insert key value).insert key value' = t.insert key value' :=
  congrArg Tree.mk (place_place ..)

theorem place_found (h : (es.map (·.1)).Pairwise (· < ·)) (hfind : find? key es = some value) :
    place key value es = es := by
  induction es with
  | nil => cases hfind
  | cons e rest ih =>
    obtain ⟨k, v⟩ := e
    obtain ⟨hfirst, hrest⟩ := List.pairwise_cons.1 h
    rw [find?] at hfind
    by_cases hk : k = key
    · rw [if_pos hk] at hfind
      cases hfind
      rw [place, if_pos hk, hk]
    · rw [if_neg hk] at hfind
      have hmem : key ∈ rest.map (·.1) := by
        have hplaced : key ∈ (place key value rest).map (·.1) := mem_keys_place.2 (.inl rfl)
        rwa [ih hrest hfind] at hplaced
      have hnlt : ¬ key < k := fun hlt => List.lt_irrefl k (List.lt_trans (hfirst key hmem) hlt)
      rw [place, if_neg hk, if_neg hnlt, ih hrest hfind]

theorem Ordered.insert_found (h : t.Ordered) (hget : t.get? key = some value) :
    t.insert key value = t :=
  congrArg Tree.mk (place_found h hget)

theorem find?_filter_ne (es : List (Bytes × Bytes)) (key other : Bytes) :
    find? other (es.filter (·.1 ≠ key)) = if other = key then none else find? other es := by
  induction es with
  | nil => simp [find?]
  | cons e rest ih =>
    obtain ⟨k, v⟩ := e
    by_cases hk : k = key
    · rw [List.filter_cons_of_neg (by simpa using hk), ih]
      by_cases ho : other = key
      · rw [if_pos ho, if_pos ho]
      · rw [if_neg ho, if_neg ho, find?, if_neg fun he => ho (he.symm.trans hk)]
    · rw [List.filter_cons_of_pos (by simpa using hk), find?, find?, ih]
      by_cases ho : k = other
      · rw [if_pos ho, if_pos ho, if_neg fun he => hk (ho.trans he)]
      · rw [if_neg ho, if_neg ho]

theorem get?_erase (t : Tree) (key other : Bytes) :
    (t.erase key).get? other = if other = key then none else t.get? other := find?_filter_ne ..

def eraseAll (t : Tree) (keys : List Bytes) : Tree := keys.foldl erase t

theorem get?_eraseAll (t : Tree) (keys : List Bytes) (key : Bytes) :
    (t.eraseAll keys).get? key = if key ∈ keys then none else t.get? key := by
  induction keys generalizing t with
  | nil => rfl
  | cons k keys ih =>
    rw [eraseAll, List.foldl_cons, ← eraseAll, ih, get?_erase]
    by_cases hk : key = k
    · rw [if_pos hk, if_pos (List.mem_cons.2 (.inl hk)), ite_self]
    · rw [if_neg hk]
      by_cases hmem : key ∈ keys
      · rw [if_pos hmem, if_pos (List.mem_cons_of_mem _ hmem)]
      · rw [if_neg hmem, if_neg fun h => (List.mem_cons.1 h).elim hk hmem]

end Tree

end RedactableLedger
