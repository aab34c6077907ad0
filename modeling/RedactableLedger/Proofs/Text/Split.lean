import Mathlib.Data.List.TakeWhile
import RedactableLedger.Proofs.Lifecycle.Validate

namespace RedactableLedger

namespace Text

def AllBlank (cs : List Char) : Prop := ∀ c ∈ cs, isBlank c = true

/-- Fields in turn, with blanks between them. -/
inductive Spaced : List (List Char) → List Char → Prop
  | last (f : List Char) : Spaced [f] f
  | cons (f : List Char) {gap : List Char} (hne : gap ≠ []) (hgap : AllBlank gap)
      (h : Spaced fs cs) :
      Spaced (f :: fs) (f ++ gap ++ cs)

/-- Fields in turn, with blanks between all of them or with nothing between them. -/
inductive Laid : List (List Char) → List Char → Prop
  | spaced (h : Spaced fs cs) : Laid fs cs
  | glued (fs : List (List Char)) : Laid fs fs.flatten

/-- An argument holds fields and nothing else, with or without blanks between them and at its
ends. -/
structure Holds (fields : List String) (argument : String) : Prop where
  laid : ∃ front body back, AllBlank front ∧ AllBlank back ∧
    Laid (fields.map String.toList) body ∧
    argument.toList = front ++ body ++ back

variable {front back current cs f : List Char} {fs : List (List Char)} {s : String}
  {fields : List String} {counts : List Nat} {length n : Nat}

theorem fieldsAux_blank (hne : current ≠ []) {c : Char} (hc : isBlank c = true)
    (rest : List Char) :
    fieldsAux current (c :: rest) = current.reverse :: fieldsAux [] rest := by
  cases current with
  | nil => exact absurd rfl hne
  | cons c' current => exact if_pos hc

theorem fieldsAux_skip (h : AllBlank front) (rest : List Char) :
    fieldsAux [] (front ++ rest) = fieldsAux [] rest := by
  induction front with
  | nil => rfl
  | cons c front ih =>
    have hc : fieldsAux [] (c :: (front ++ rest)) = fieldsAux [] (front ++ rest) :=
      if_pos (h c (.head _))
    rw [List.cons_append, hc, ih fun d hd => h d (.tail _ hd)]

theorem fieldsAux_append_blank (h : AllBlank back) (current cs : List Char) :
    fieldsAux current (cs ++ back) = fieldsAux current cs := by
  induction cs generalizing current with
  | nil =>
    have hskip := fieldsAux_skip h []
    rw [List.append_nil] at hskip
    by_cases hne : current = []
    · rw [hne]
      exact hskip
    · cases back with
      | nil => rfl
      | cons c back =>
        have hrest := fieldsAux_skip (fun d hd => h d (.tail _ hd) : AllBlank back) []
        rw [List.append_nil] at hrest
        rw [List.nil_append, fieldsAux_blank hne (h c (.head _)), hrest]
        cases current with
        | nil => exact absurd rfl hne
        | cons c' current => rfl
  | cons c cs ih =>
    cases hc : isBlank c with
    | false => rw [List.cons_append, fieldsAux_cons _ hc, fieldsAux_cons _ hc, ih]
    | true =>
      by_cases hne : current = []
      · have hfirst : ∀ rest, fieldsAux [] (c :: rest) = fieldsAux [] rest := fun _ => if_pos hc
        rw [hne, List.cons_append, hfirst, hfirst, ih]
      · rw [List.cons_append, fieldsAux_blank hne hc, fieldsAux_blank hne hc, ih]

theorem exists_trim (s : String) :
    ∃ front back, AllBlank front ∧ AllBlank back ∧
      s.toList = front ++ (trim s).toList ++ back := by
  have htaken : ∀ cs : List Char, AllBlank (cs.takeWhile isBlank) :=
    fun _ _ => List.mem_takeWhile_imp
  let rest := s.toList.dropWhile isBlank
  refine ⟨s.toList.takeWhile isBlank, (rest.reverse.takeWhile isBlank).reverse,
    htaken _, ?_, ?_⟩
  · intro c hc
    exact htaken _ c (List.mem_reverse.1 hc)
  · have hback : (rest.reverse.dropWhile isBlank).reverse ++
        (rest.reverse.takeWhile isBlank).reverse = rest := by
      rw [← List.reverse_append, List.takeWhile_append_dropWhile, List.reverse_reverse]
    rw [trim, String.toList_ofList, List.append_assoc, hback, List.takeWhile_append_dropWhile]

theorem fields_trim (s : String) : Text.fields (trim s) = Text.fields s := by
  obtain ⟨front, back, hfront, hback, hs⟩ := exists_trim s
  rw [Text.fields, Text.fields, hs, List.append_assoc, fieldsAux_skip hfront,
    fieldsAux_append_blank hback]

theorem fieldsAux_field (hf : IsField f) : fieldsAux [] f = [f] := by
  have h := fieldsAux_append [] hf.blank []
  rw [List.append_nil, List.append_nil] at h
  rw [h]
  conv => rhs; rw [← List.reverse_reverse f]
  have hne : f.reverse ≠ [] := fun he => hf.nonempty (List.reverse_eq_nil_iff.1 he)
  generalize f.reverse = r at hne ⊢
  cases r with
  | nil => exact absurd rfl hne
  | cons c r => rfl

theorem fieldsAux_spaced (h : Spaced fs cs) (hf : ∀ f ∈ fs, IsField f) :
    fieldsAux [] cs = fs := by
  induction h with
  | last f => exact fieldsAux_field (hf f (.head _))
  | @cons fs cs f gap hne hgap _ ih =>
    have hfield := hf f (.head _)
    cases gap with
    | nil => exact absurd rfl hne
    | cons c gap =>
      have hreverse : f.reverse ++ [] ≠ [] := by
        rw [List.append_nil]
        exact fun he => hfield.nonempty (List.reverse_eq_nil_iff.1 he)
      rw [List.append_assoc, fieldsAux_append [] hfield.blank, List.cons_append,
        fieldsAux_blank hreverse (hgap c (.head _)), List.append_nil, List.reverse_reverse,
        fieldsAux_skip fun d hd => hgap d (.tail _ hd), ih fun g hg => hf g (.tail _ hg)]

theorem isField_flatten (hne : fs ≠ []) (hf : ∀ f ∈ fs, IsField f) : IsField fs.flatten where
  nonempty he := by
    cases fs with
    | nil => exact hne rfl
    | cons f fs => exact (hf f (.head _)).nonempty (List.flatten_eq_nil_iff.1 he f (.head _))
  blank c hc := by
    obtain ⟨f, hmem, hc⟩ := List.mem_flatten.1 hc
    exact (hf f hmem).blank c hc

theorem length_flatten_of_width (h : ∀ f ∈ fs, f.length = length) :
    fs.flatten.length = fs.length * length := by
  induction fs with
  | nil => rw [List.flatten_nil, List.length_nil, List.length_nil, Nat.zero_mul]
  | cons f fs ih =>
    rw [List.flatten_cons, List.length_append, h f (.head _), ih fun g hg => h g (.tail _ hg),
      List.length_cons, Nat.succ_mul, Nat.add_comm]

theorem pieces_flatten (h : ∀ f ∈ fs, f.length = length) :
    pieces length fs.length fs.flatten = fs.map String.ofList := by
  induction fs with
  | nil => rfl
  | cons f fs ih =>
    have hf := h f (.head _)
    rw [List.flatten_cons, List.length_cons, pieces, List.take_left' hf, List.drop_left' hf,
      ih fun g hg => h g (.tail _ hg), List.map_cons]

theorem find?_count (hn : n ∈ counts) (hlength : 0 < length) :
    counts.find? (fun m => n * length == m * length) = some n := by
  cases hfind : counts.find? (fun m => n * length == m * length) with
  | none => exact absurd (beq_self_eq_true (n * length)) (List.find?_eq_none.1 hfind n hn)
  | some m =>
    have hm : n * length = m * length := by simpa using List.find?_some hfind
    rw [Nat.eq_of_mul_eq_mul_right hlength hm]

/-- A field of the width of keys and parameters, of ASCII characters that are neither blanks nor
points. -/
structure IsWide (f : List Char) : Prop where
  length : f.length = fieldLength
  plain : Hex.Plain f

theorem IsWide.isField (h : IsWide f) : IsField f where
  nonempty he := by
    have hl := h.length
    rw [he] at hl
    cases hl
  blank := h.plain.blank

theorem Spaced.mem (h : Spaced fs cs) : ∀ c ∈ cs, isBlank c = true ∨ ∃ f ∈ fs, c ∈ f := by
  induction h with
  | last f => exact fun c hc => .inr ⟨f, .head _, hc⟩
  | @cons fs cs f gap _ hgap _ ih =>
    intro c hc
    rw [List.mem_append, List.mem_append] at hc
    obtain (hc | hc) | hc := hc
    · exact .inr ⟨f, .head _, hc⟩
    · exact .inl (hgap c hc)
    · obtain hblank | ⟨g, hg, hc⟩ := ih c hc
      · exact .inl hblank
      · exact .inr ⟨g, .tail _ hg, hc⟩

theorem Laid.mem (h : Laid fs cs) : ∀ c ∈ cs, isBlank c = true ∨ ∃ f ∈ fs, c ∈ f := by
  cases h with
  | spaced h => exact h.mem
  | glued => exact fun c hc => .inr (List.mem_flatten.1 hc)

theorem point_not_mem_of_holds (h : Holds fields s) (hf : ∀ f ∈ fields, IsWide f.toList) :
    '.' ∉ s.toList := by
  obtain ⟨front, body, back, hfront, hback, hlaid, hs⟩ := h.laid
  have hpoint : ¬isBlank '.' = true := by decide
  rw [hs, List.mem_append, List.mem_append, not_or, not_or]
  refine ⟨⟨fun hc => hpoint (hfront _ hc), fun hc => ?_⟩, fun hc => hpoint (hback _ hc)⟩
  obtain hblank | ⟨g, hg, hc⟩ := hlaid.mem _ hc
  · exact hpoint hblank
  · obtain ⟨f, hmem, rfl⟩ := List.mem_map.1 hg
    exact (hf f hmem).plain.point hc

theorem isFileReference_of_holds (h : Holds fields s) (hf : ∀ f ∈ fields, IsWide f.toList) :
    isFileReference (trim s) = false := by
  obtain ⟨front, back, _, _, hs⟩ := exists_trim s
  refine not_occursIn fun hc => point_not_mem_of_holds h hf ?_
  rw [hs]
  exact List.mem_append_left _ (List.mem_append_right _ hc)

theorem splitFields_of_holds (h : Holds fields s) (hf : ∀ f ∈ fields, IsWide f.toList)
    (hn : fields.length ∈ counts) (htwo : 2 ≤ fields.length) :
    splitFields counts (trim s) = fields := by
  obtain ⟨front, body, back, hfront, hback, hlaid, hs⟩ := h.laid
  have hwide : ∀ f ∈ fields.map String.toList, IsWide f := by
    intro f hmem
    obtain ⟨g, hg, rfl⟩ := List.mem_map.1 hmem
    exact hf g hg
  have hsame : (fields.map String.toList).map String.ofList = fields := by
    rw [List.map_map]
    conv => rhs; rw [← List.map_id fields]
    exact List.map_congr_left fun _ _ => String.ofList_toList
  have hsplit : Text.fields (trim s) = (fieldsAux [] body).map String.ofList := by
    rw [fields_trim, Text.fields, hs, List.append_assoc, fieldsAux_skip hfront,
      fieldsAux_append_blank hback]
  rw [splitFields, hsplit]
  have hcount : (fields.map String.toList).length = fields.length := List.length_map _
  generalize fields.map String.toList = fs at hlaid hwide hsame hcount
  subst hsame
  cases hlaid with
  | spaced hspaced =>
    rw [fieldsAux_spaced hspaced fun f hmem => (hwide f hmem).isField]
    -- two fields or more are left as they are
    obtain _ | ⟨f, _ | ⟨g, fs⟩⟩ := fs
    · cases htwo
    · exact absurd htwo (Nat.not_succ_le_self 1)
    · rfl
  | glued =>
    have hne : fs ≠ [] := by
      rintro rfl
      cases htwo
    have hlengths : ∀ f ∈ fs, f.length = fieldLength := fun f hmem => (hwide f hmem).length
    have hascii : fs.flatten.all (·.toNat < 128) = true := by
      rw [List.all_eq_true]
      intro c hc
      obtain ⟨f, hmem, hc⟩ := List.mem_flatten.1 hc
      exact decide_eq_true ((hwide f hmem).plain.ascii c hc)
    rw [fieldsAux_field (isField_flatten hne fun f hmem => (hwide f hmem).isField)]
    simp only [List.map_cons, List.map_nil, String.toList_ofList, hascii, if_true,
      length_flatten_of_width hlengths]
    rw [hcount, find?_count hn (by decide)]
    simp only
    rw [← hcount, pieces_flatten hlengths]

theorem isBlankText_of_holds (h : Holds fields s) (hf : ∀ f ∈ fields, IsWide f.toList)
    (htwo : 2 ≤ fields.length) :
    isBlankText s = false := by
  rw [← Bool.not_eq_true, ← trim_eq_empty]
  intro hempty
  have hsplit := splitFields_of_holds h hf (List.mem_singleton.2 rfl) htwo
  rw [hempty] at hsplit
  have hnone : splitFields [fields.length] "" = [] := rfl
  rw [← hsplit, hnone] at htwo
  cases htwo

@[simp] theorem length_pieces (length n : Nat) (cs : List Char) :
    (pieces length n cs).length = n := by
  induction n generalizing cs with
  | zero => rfl
  | succ n ih => rw [pieces, List.length_cons, ih]

theorem getElem_pieces {i : Nat} (h : i < (pieces length n cs).length) :
    (pieces length n cs)[i] = String.ofList ((cs.drop (i * length)).take length) := by
  induction n generalizing cs i with
  | zero => cases h
  | succ n ih =>
    cases i with
    | zero =>
      rw [Nat.zero_mul]
      rfl
    | succ i =>
      have hi : i < (pieces length n (cs.drop length)).length := Nat.lt_of_succ_lt_succ h
      have hrest : (pieces length (n + 1) cs)[i + 1] = (pieces length n (cs.drop length))[i] :=
        rfl
      rw [hrest, ih, List.drop_drop, Nat.succ_mul, Nat.add_comm]

/-- The parts that a field is cut into lie between boundaries of its characters. -/
structure Cut (field : String) (parts : List String) : Prop where
  size : field.utf8ByteSize = parts.length * fieldLength
  boundary : ∀ i ≤ parts.length, String.Pos.Raw.IsValid field ⟨i * fieldLength⟩
  bytes : ∀ i (h : i < parts.length),
    Bytes.ofText parts[i] = ((Bytes.ofText field).drop (i * fieldLength)).take fieldLength

theorem utf8ByteSize_ofList (h : ∀ c ∈ cs, c.toNat < 128) :
    (String.ofList cs).utf8ByteSize = cs.length := by
  rw [← Bytes.length_ofText, Bytes.ofText_ofList h, List.length_map]

theorem cut_pieces (h : ∀ c ∈ cs, c.toNat < 128) (hlength : cs.length = n * fieldLength) :
    Cut (String.ofList cs) (pieces fieldLength n cs) where
  size := by rw [utf8ByteSize_ofList h, hlength, length_pieces]
  boundary i hi := by
    rw [length_pieces] at hi
    have hle : i * fieldLength ≤ cs.length := hlength ▸ Nat.mul_le_mul_right _ hi
    refine String.Pos.Raw.isValid_iff_exists_append.2
      ⟨String.ofList (cs.take (i * fieldLength)),
        String.ofList (cs.drop (i * fieldLength)), ?_, ?_⟩
    · rw [← String.ofList_append, List.take_append_drop]
    · have hsize := utf8ByteSize_ofList fun c (hc : c ∈ cs.take (i * fieldLength)) =>
        h c (List.mem_of_mem_take hc)
      rw [List.length_take_of_le hle] at hsize
      exact String.Pos.Raw.ext hsize.symm
  bytes i hi := by
    have hpart : ∀ c ∈ (cs.drop (i * fieldLength)).take fieldLength, c.toNat < 128 :=
      fun c hc => h c (List.mem_of_mem_drop (List.mem_of_mem_take hc))
    rw [getElem_pieces, Bytes.ofText_ofList hpart, Bytes.ofText_ofList h, List.map_take,
      List.map_drop]

/-- An argument stays as it stands between its blanks, or else is one field and is cut inside
it. -/
theorem splitFields_cases (counts : List Nat) (s : String) :
    splitFields counts s = Text.fields s ∨
      ∃ field, Text.fields s = [field] ∧ Cut field (splitFields counts s) ∧
        (splitFields counts s).length ∈ counts := by
  rw [splitFields]
  split
  · rename_i field hfields
    dsimp only
    split
    · rename_i hascii
      split
      · rename_i n hfind
        have hlength : field.toList.length = n * fieldLength := by
          simpa using List.find?_some hfind
        have hchars : ∀ c ∈ field.toList, c.toNat < 128 :=
          fun c hc => of_decide_eq_true (List.all_eq_true.1 hascii c hc)
        have hcut := cut_pieces hchars hlength
        rw [String.ofList_toList] at hcut
        refine .inr ⟨field, hfields, hcut, ?_⟩
        rw [length_pieces]
        exact List.mem_of_find?_eq_some hfind
      · exact .inl hfields.symm
    · exact .inl hfields.symm
  · exact .inl rfl

end Text

end RedactableLedger
