import RedactableLedger.Files

namespace RedactableLedger

namespace Files

/-- The same files and directories, and perhaps more. -/
structure Extends (files files' : Files) : Prop where
  home : files'.home = files.home
  node : ∀ path node, files.node? path = some node → files'.node? path = some node

variable {files files' files'' : Files} {path directory : Path} {reference : String}
  {content : Bytes} {node : Node}

theorem Extends.refl (files : Files) : files.Extends files := ⟨rfl, fun _ _ h => h⟩

theorem Extends.trans (h : files.Extends files') (h' : files'.Extends files'') :
    files.Extends files'' :=
  ⟨h'.home.trans h.home, fun path node hnode => h'.node path node (h.node path node hnode)⟩

theorem Extends.follow (h : files.Extends files') {names : List String}
    (hfollow : files.follow directory names = .ok path) :
    files'.follow directory names = .ok path := by
  induction names generalizing directory with
  | nil => exact hfollow
  | cons name rest ih =>
    rw [Files.follow] at hfollow ⊢
    split at hfollow
    · cases hfollow
    · cases hfollow
    · rename_i hdirectory
      rw [h.node _ _ hdirectory]
      split at hfollow
      · cases hfollow
      · rename_i henter
        simp only
        exact ih hfollow

theorem Extends.locate (h : files.Extends files')
    (hlocate : files.locate reference = .ok path) :
    files'.locate reference = .ok path := by
  have hstart : files'.start reference = files.start reference := by
    rw [start, start, h.home]
  rw [Files.locate] at hlocate ⊢
  split at hlocate
  · cases hlocate
  · rw [hstart]
    exact h.follow hlocate

theorem Extends.contains (h : files.Extends files')
    (hcontains : files.contains reference = true) :
    files'.contains reference = true := by
  rw [Files.contains] at hcontains ⊢
  split at hcontains
  · cases hcontains
  · rename_i path hlocate
    simp only [h.locate hlocate]
    cases hnode : files.node? path with
    | none =>
      rw [hnode] at hcontains
      cases hcontains
    | some node =>
      rw [hnode] at hcontains
      rw [h.node _ _ hnode]
      exact hcontains

theorem Extends.read (h : files.Extends files') (hread : files.read reference = .ok content) :
    files'.read reference = .ok content := by
  rw [Files.read] at hread ⊢
  split at hread
  · cases hread
  · rename_i path hlocate
    simp only [h.locate hlocate]
    cases hnode : files.node? path with
    | none =>
      rw [hnode] at hread
      cases hread
    | some node =>
      rw [hnode] at hread
      rw [h.node _ _ hnode]
      exact hread

theorem Extends.readText (h : files.Extends files') {text : String}
    (hread : files.readText reference = .ok text) :
    files'.readText reference = .ok text := by
  rw [Files.readText] at hread ⊢
  split at hread
  · cases hread
  · rename_i bytes hbytes
    simp only [h.read hbytes]
    exact hread

theorem find?_set (files : Files) (node : Node) {other : Path} (h : path ≠ other) :
    (files.set path node).entries.find? (·.1 = other) = files.entries.find? (·.1 = other) := by
  have hboth :
      (fun e : Path × Node =>
        decide (decide (e.1 ≠ path) = true ∧ decide (e.1 = other) = true)) =
      fun e => decide (e.1 = other) := by
    funext e
    by_cases he : e.1 = other
    · simp [he, Ne.symm h]
    · simp [he]
  rw [set, List.find?_cons_of_neg (by simpa using h), List.find?_filter, hboth]

/-- A directory that stands because of what is below it still has that, or what was put, below
it. -/
theorem any_isBelow_set (node : Node) {other : Path}
    (h : files.entries.any (isBelow other ·.1) = true) :
    (files.set path node).entries.any (isBelow other ·.1) = true := by
  obtain ⟨e, he, hbelow⟩ := List.any_eq_true.1 h
  apply List.any_eq_true.2
  by_cases hpe : e.1 = path
  · exact ⟨(path, node), List.mem_cons_self, hpe ▸ hbelow⟩
  · exact ⟨e, List.mem_cons_of_mem _ (List.mem_filter.2 ⟨he, by simpa using hpe⟩), hbelow⟩

section

variable (hpath : files.node? path = none)

include hpath

theorem ne_nullDevice : path ≠ nullDevice := by
  intro he
  rw [node?, if_pos he] at hpath
  cases hpath

theorem isGiven_eq_false : files.isGiven path = false := by
  rw [node?, if_neg (ne_nullDevice hpath)] at hpath
  split at hpath
  · cases hpath
  · rename_i hgiven
    exact Bool.eq_false_iff.2 hgiven

theorem node?_set_self (node : Node) : (files.set path node).node? path = some node := by
  have hgiven : (files.set path node).isGiven path = files.isGiven path := rfl
  rw [node?, if_neg (ne_nullDevice hpath), hgiven, isGiven_eq_false hpath,
    if_neg Bool.false_ne_true]
  simp only [set, List.find?_cons, decide_true]

/-- Something that is put where nothing stood changes nothing elsewhere. -/
theorem extends_set (node : Node) : files.Extends (files.set path node) := by
  refine ⟨rfl, ?_⟩
  intro other found hother
  have hne : path ≠ other := by
    rintro rfl
    rw [hpath] at hother
    cases hother
  rw [node?] at hother ⊢
  by_cases hnull : other = nullDevice
  · rw [if_pos hnull] at hother ⊢
    exact hother
  · rw [if_neg hnull] at hother ⊢
    have hsame : (files.set path node).isGiven other = files.isGiven other := rfl
    rw [hsame]
    by_cases hgiven : files.isGiven other = true
    · rw [if_pos hgiven] at hother ⊢
      exact hother
    · rw [if_neg hgiven, find?_set files node hne]
      rw [if_neg hgiven] at hother
      split at hother
      · exact hother
      · split at hother
        · rename_i hbelow
          rw [if_pos (any_isBelow_set node hbelow)]
          exact hother
        · cases hother

end

/-- What is written where a reference leads to nothing is a new file. -/
theorem set_of_write {mode : Option Nat} (habsent : files.contains reference = false)
    (hwrite : files.write reference content mode = .ok files') :
    ∃ path, files.locate reference = .ok path ∧ namesDirectory reference = false ∧
      files.node? path = none ∧
      files' = files.set path (.file content (mode.getD defaultMode)) := by
  rw [write] at hwrite
  rw [Files.contains] at habsent
  split at hwrite
  · cases hwrite
  · rename_i path hlocate
    rw [hlocate] at habsent
    split at hwrite
    · cases hwrite
    · rename_i hname
      rw [Bool.not_eq_true] at hname
      cases hnode : files.node? path with
      | none =>
        rw [hnode] at hwrite
        cases hwrite
        exact ⟨path, hlocate, hname, hnode, rfl⟩
      | some node =>
        cases node with
        | directory =>
          rw [hnode] at hwrite
          cases hwrite
        | file old oldMode =>
          simp only [hnode, hname] at habsent
          cases habsent

section

variable {mode : Option Nat} (habsent : files.contains reference = false)
  (hwrite : files.write reference content mode = .ok files')

include habsent hwrite

theorem extends_write : files.Extends files' := by
  obtain ⟨path, _, _, hnode, rfl⟩ := set_of_write habsent hwrite
  exact extends_set hnode _

theorem contains_write : files'.contains reference = true := by
  obtain ⟨path, hlocate, hname, hnode, rfl⟩ := set_of_write habsent hwrite
  rw [Files.contains, (extends_set hnode _).locate hlocate]
  simp only [node?_set_self hnode, hname]
  rfl

theorem read_write : files'.read reference = .ok content := by
  obtain ⟨path, hlocate, hname, hnode, rfl⟩ := set_of_write habsent hwrite
  rw [Files.read, (extends_set hnode _).locate hlocate]
  simp only [node?_set_self hnode, hname]
  rfl

end

end Files

theorem Bytes.toText?_ofText (s : String) : toText? (ofText s) = some s := by
  rw [toText?, ofText, Array.toArray_toList]
  exact dif_pos s.isValidUTF8

end RedactableLedger
