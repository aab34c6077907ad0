import RedactableLedger.Octets

namespace RedactableLedger

/-- A finite map, as its entries in the order of the keys. -/
structure Tree where
  entries : List (Bytes × Bytes)
deriving DecidableEq

namespace Tree

def empty : Tree := ⟨[]⟩

instance : Inhabited Tree := ⟨empty⟩

def find? (key : Bytes) : List (Bytes × Bytes) → Option Bytes
  | [] => none
  | (k, v) :: rest => if k = key then some v else find? key rest

def place (key value : Bytes) : List (Bytes × Bytes) → List (Bytes × Bytes)
  | [] => [(key, value)]
  | (k, v) :: rest =>
    if k = key then (key, value) :: rest
    else if key < k then (key, value) :: (k, v) :: rest
    else (k, v) :: place key value rest

def get? (t : Tree) (key : Bytes) : Option Bytes := find? key t.entries

def insert (t : Tree) (key value : Bytes) : Tree := ⟨place key value t.entries⟩

def erase (t : Tree) (key : Bytes) : Tree := ⟨t.entries.filter (·.1 ≠ key)⟩

def size (t : Tree) : Nat := t.entries.length

def first? (t : Tree) : Option Bytes := t.entries.head?.map (·.2)

theorem find?_place_self (key value : Bytes) (es : List (Bytes × Bytes)) :
    find? key (place key value es) = some value := by
  induction es with
  | nil => simp [place, find?]
  | cons e rest ih =>
    obtain ⟨k, v⟩ := e
    by_cases hk : k = key
    · simp [place, find?, hk]
    · by_cases hlt : key < k <;> simp [place, find?, hk, hlt, ih]

theorem find?_place_of_ne {key other : Bytes} (h : other ≠ key) (value : Bytes)
    (es : List (Bytes × Bytes)) : find? other (place key value es) = find? other es := by
  induction es with
  | nil => simp [place, find?, Ne.symm h]
  | cons e rest ih =>
    obtain ⟨k, v⟩ := e
    by_cases hk : k = key
    · subst hk
      simp [place, find?, Ne.symm h]
    · by_cases hlt : key < k
      · simp [place, find?, hk, hlt, Ne.symm h]
      · simp only [place, hk, hlt, if_false, find?, ih]

theorem place_comm_of_lt {key other : Bytes} (h : key < other) (value value' : Bytes)
    (es : List (Bytes × Bytes)) :
    place key value (place other value' es) = place other value' (place key value es) := by
  have hne : key ≠ other := fun he => List.lt_irrefl other (he ▸ h)
  have hnlt : ¬ other < key := fun hlt => List.lt_irrefl key (List.lt_trans h hlt)
  induction es with
  | nil => simp [place, h, hne, hne.symm, hnlt]
  | cons e rest ih =>
    obtain ⟨k, v⟩ := e
    obtain hk | rfl | hk := Std.lt_trichotomy k key
    · -- both keys go behind the entry
      have hko : k < other := List.lt_trans hk h
      have hkn : k ≠ key := fun he => List.lt_irrefl key (he ▸ hk)
      have hkon : k ≠ other := fun he => List.lt_irrefl other (he ▸ hko)
      have hnk : ¬ key < k := fun hlt => List.lt_irrefl k (List.lt_trans hk hlt)
      have hnko : ¬ other < k := fun hlt => List.lt_irrefl k (List.lt_trans hko hlt)
      simp only [place, hkn, hkon, hnk, hnko, if_false, ih]
    · simp [place, hne, hnlt]
    · have hkn : k ≠ key := fun he => List.lt_irrefl key (he ▸ hk)
      by_cases hko : k = other
      · simp [place, hko, h, hne, hne.symm, hnlt]
      · by_cases hlt : other < k <;> simp [place, hko, hlt, hkn, hk, h, hne, hne.symm, hnlt]

theorem place_comm {key other : Bytes} (h : key ≠ other) (value value' : Bytes)
    (es : List (Bytes × Bytes)) :
    place key value (place other value' es) = place other value' (place key value es) := by
  obtain hlt | he | hlt := Std.lt_trichotomy key other
  · exact place_comm_of_lt hlt value value' es
  · exact absurd he h
  · exact (place_comm_of_lt hlt value' value es).symm

@[simp] theorem get?_insert_self (t : Tree) (key value : Bytes) :
    (t.insert key value).get? key = some value := find?_place_self ..

theorem get?_insert_of_ne (t : Tree) {key other : Bytes} (h : other ≠ key) (value : Bytes) :
    (t.insert key value).get? other = t.get? other := find?_place_of_ne h ..

theorem insert_comm (t : Tree) {key other : Bytes} (h : key ≠ other) (value value' : Bytes) :
    (t.insert key value).insert other value' = (t.insert other value').insert key value :=
  congrArg Tree.mk (place_comm h.symm value' value t.entries)

end Tree

end RedactableLedger
