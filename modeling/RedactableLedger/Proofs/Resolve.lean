import RedactableLedger.Request
import RedactableLedger.Resolve
import RedactableLedger.Proofs.Outcome

namespace RedactableLedger

theorem Bytes.ofText_ofList {cs : List Char} (h : ∀ c ∈ cs, c.toNat < 128) :
    ofText (String.ofList cs) = cs.map fun c => UInt8.ofNat c.toNat := by
  have hbytes : ofText (String.ofList cs) = cs.flatMap String.utf8EncodeChar := by
    rw [ofText, String.toUTF8, String.toByteArray_ofList, List.utf8Encode]
    simp
  rw [hbytes]
  clear hbytes
  induction cs with
  | nil => rfl
  | cons c rest ih =>
    have hc := h c List.mem_cons_self
    have hsize : c.utf8Size = 1 := by
      rw [Char.utf8Size_eq_one_iff]
      exact UInt32.le_iff_toNat_le.2 (Nat.le_of_lt_succ hc)
    rw [List.flatMap_cons, List.map_cons, ih fun c hc => h c (List.mem_cons_of_mem _ hc),
      String.utf8EncodeChar_eq_singleton hsize]
    rfl

namespace Hex

theorem digit_mem {n : Nat} (h : n < 16) : digit n ∈ "0123456789abcdef".toList := by
  have hall : ∀ n ∈ List.range 16, digit n ∈ "0123456789abcdef".toList := by
    decide
  exact hall n (List.mem_range.2 h)

theorem value?_digit {n : Nat} (h : n < 16) :
    value? (UInt8.ofNat (digit n).toNat) = some (UInt8.ofNat n) := by
  have hall : ∀ n ∈ List.range 16, value? (UInt8.ofNat (digit n).toNat) =
      some (UInt8.ofNat n) := by
    decide
  exact hall n (List.mem_range.2 h)

/-- What is written in hexadecimal holds neither blanks nor points, and nothing beyond ASCII. -/
structure Plain (cs : List Char) : Prop where
  ascii : ∀ c ∈ cs, c.toNat < 128
  blank : ∀ c ∈ cs, isBlank c = false
  point : '.' ∉ cs

theorem mem_encodeChars {c : Char} {bytes : Bytes} (h : c ∈ encodeChars bytes) :
    c ∈ "0123456789abcdef".toList := by
  induction bytes with
  | nil => exact absurd h List.not_mem_nil
  | cons b rest ih =>
    have hb : b.toNat < 256 := b.toNat_lt_size
    simp only [encodeChars, List.mem_cons] at h
    obtain rfl | rfl | h := h
    · exact digit_mem (by omega)
    · exact digit_mem (by omega)
    · exact ih h

theorem plain_encodeChars (bytes : Bytes) : Plain (encodeChars bytes) := by
  have hall : ("0123456789abcdef".toList.all fun c =>
      decide (c.toNat < 128 ∧ isBlank c = false ∧ c ≠ '.')) = true := by
    decide
  have hdigits : ∀ c ∈ "0123456789abcdef".toList, c.toNat < 128 ∧ isBlank c = false ∧ c ≠ '.' :=
    fun c hc => of_decide_eq_true (List.all_eq_true.1 hall c hc)
  exact ⟨fun c hc => (hdigits c (mem_encodeChars hc)).1,
    fun c hc => (hdigits c (mem_encodeChars hc)).2.1,
    fun hc => (hdigits _ (mem_encodeChars hc)).2.2 rfl⟩

theorem decodeFrom_encodeChars (bytes : Bytes) (position : Nat) :
    decodeFrom position ((encodeChars bytes).map fun c => UInt8.ofNat c.toNat) = .ok bytes := by
  induction bytes generalizing position with
  | nil => rfl
  | cons b rest ih =>
    have hb : b.toNat < 256 := b.toNat_lt_size
    have hvalue : UInt8.ofNat (b.toNat / 16) * 16 + UInt8.ofNat (b.toNat % 16) = b := by
      apply UInt8.toNat_inj.1
      simp
      omega
    simp only [encodeChars, List.map_cons, decodeFrom,
      value?_digit (show b.toNat / 16 < 16 by omega),
      value?_digit (show b.toNat % 16 < 16 by omega), ih, hvalue]
    rfl

theorem decode_encode (bytes : Bytes) : decode (encode bytes) = .ok bytes := by
  rw [decode, encode, Bytes.ofText_ofList (plain_encodeChars bytes).ascii]
  exact decodeFrom_encodeChars bytes 0

end Hex

theorem decodeField_toHex (a : Octets n) (name : String) :
    decodeField n a.toHex name = .ok a := by
  have hsize : a.toHex.utf8ByteSize = 2 * n := by
    rw [← Bytes.length_ofText, Octets.toHex, Hex.encode,
      Bytes.ofText_ofList (Hex.plain_encodeChars _).ascii, List.length_map,
      Hex.length_encodeChars, a.length_eq]
  have hdecode : Hex.decode a.toHex = .ok a.bytes := Hex.decode_encode a.bytes
  rw [decodeField, dif_pos hsize]
  split
  · rename_i he
    rw [hdecode] at he
    cases he
  · rename_i bytes he
    rw [hdecode] at he
    cases he
    rfl

namespace Text

/-- A field is what stands between blanks. -/
structure IsField (f : List Char) : Prop where
  nonempty : f ≠ []
  blank : ∀ c ∈ f, isBlank c = false

def joined (f : List Char) (fs : List (List Char)) : List Char := f ++ fs.flatMap (' ' :: ·)

theorem fieldsAux_cons (current : List Char) {c : Char} (h : isBlank c = false)
    (rest : List Char) : fieldsAux current (c :: rest) = fieldsAux (c :: current) rest := by
  have hne : ¬ isBlank c = true := Bool.eq_false_iff.1 h
  cases current with
  | nil => exact if_neg hne
  | cons c' current => exact if_neg hne

theorem fieldsAux_append (current : List Char) {f : List Char} (h : ∀ c ∈ f, isBlank c = false)
    (rest : List Char) :
    fieldsAux current (f ++ rest) = fieldsAux (f.reverse ++ current) rest := by
  induction f generalizing current with
  | nil => rfl
  | cons c f ih =>
    rw [List.cons_append, fieldsAux_cons current (h c List.mem_cons_self),
      ih _ fun c hc => h c (List.mem_cons_of_mem _ hc), List.reverse_cons, List.append_assoc]
    rfl

theorem fieldsAux_flatMap {current : List Char} {fs : List (List Char)} (hc : current ≠ [])
    (h : ∀ f ∈ fs, IsField f) :
    fieldsAux current (fs.flatMap (' ' :: ·)) = current.reverse :: fs := by
  induction fs generalizing current with
  | nil =>
    cases current with
    | nil => exact absurd rfl hc
    | cons c current => rfl
  | cons f fs ih =>
    have hf := h f List.mem_cons_self
    have hblank : ∀ rest, fieldsAux current (' ' :: rest) =
        current.reverse :: fieldsAux [] rest := by
      intro rest
      cases current with
      | nil => exact absurd rfl hc
      | cons c current => rfl
    rw [List.flatMap_cons, List.cons_append, hblank, fieldsAux_append [] hf.blank,
      List.append_nil, ih (fun he => hf.nonempty (List.reverse_eq_nil_iff.1 he))
        fun f hf => h f (List.mem_cons_of_mem _ hf), List.reverse_reverse]

variable {f : List Char} {fs : List (List Char)}

theorem fields_joined (hf : IsField f) (h : ∀ f ∈ fs, IsField f) :
    fields (String.ofList (joined f fs)) = (f :: fs).map String.ofList := by
  rw [fields, String.toList_ofList, joined, fieldsAux_append [] hf.blank, List.append_nil,
    fieldsAux_flatMap (fun he => hf.nonempty (List.reverse_eq_nil_iff.1 he)) h,
    List.reverse_reverse]

theorem joined_start (hf : IsField f) (fs : List (List Char)) :
    ∃ c cs, joined f fs = c :: cs ∧ isBlank c = false := by
  cases f with
  | nil => exact absurd rfl hf.nonempty
  | cons c f => exact ⟨c, _, rfl, hf.blank c List.mem_cons_self⟩

theorem IsField.end (hf : IsField f) : ∃ cs c, f = cs ++ [c] ∧ isBlank c = false :=
  ⟨f.dropLast, f.getLast hf.nonempty, (List.dropLast_concat_getLast hf.nonempty).symm,
    hf.blank _ (List.getLast_mem hf.nonempty)⟩

theorem joined_end (hf : IsField f) (h : ∀ f ∈ fs, IsField f) :
    ∃ cs c, joined f fs = cs ++ [c] ∧ isBlank c = false := by
  obtain rfl | ⟨fs, g, rfl⟩ := List.eq_nil_or_concat fs
  · obtain ⟨cs, c, he, hc⟩ := hf.end
    exact ⟨cs, c, by rw [joined, List.flatMap_nil, List.append_nil, he], hc⟩
  · rw [List.concat_eq_append] at h ⊢
    obtain ⟨cs, c, he, hc⟩ := (h g List.mem_concat_self).end
    refine ⟨f ++ fs.flatMap (' ' :: ·) ++ ' ' :: cs, c, ?_, hc⟩
    simp [joined, he]

theorem trim_joined (hf : IsField f) (h : ∀ f ∈ fs, IsField f) :
    trim (String.ofList (joined f fs)) = String.ofList (joined f fs) := by
  obtain ⟨c, cs, hstart, hc⟩ := joined_start hf fs
  obtain ⟨cs', c', hend, hc'⟩ := joined_end hf h
  have hfront : (joined f fs).dropWhile isBlank = joined f fs := by
    rw [hstart, List.dropWhile_cons_of_neg (by rw [hc]; exact Bool.false_ne_true)]
  have hback : (joined f fs).reverse.dropWhile isBlank = (joined f fs).reverse := by
    rw [hend, List.reverse_append, List.reverse_singleton, List.singleton_append,
      List.dropWhile_cons_of_neg (by rw [hc']; exact Bool.false_ne_true)]
  rw [trim, String.toList_ofList, hfront, hback, List.reverse_reverse]

theorem isBlankText_joined (hf : IsField f) (fs : List (List Char)) :
    isBlankText (String.ofList (joined f fs)) = false := by
  obtain ⟨c, cs, hstart, hc⟩ := joined_start hf fs
  rw [isBlankText, String.toList_ofList, hstart, List.all_cons, hc, Bool.false_and]

theorem not_occursIn {needle cs : List Char} {c : Char} (h : c ∉ cs) :
    occursIn (c :: needle) cs = false := by
  induction cs with
  | nil => rfl
  | cons c' cs ih =>
    have hne : (c == c') = false := by
      rw [beq_eq_false_iff_ne]
      rintro rfl
      exact h List.mem_cons_self
    rw [occursIn, startsWithChars, hne, Bool.false_and, Bool.false_or,
      ih fun hc => h (List.mem_cons_of_mem _ hc)]

/-- Fields written in hexadecimal are fields of an argument, and do not name a file. -/
theorem isField_encodeChars {bytes : Bytes} (h : bytes ≠ []) :
    IsField (Hex.encodeChars bytes) := by
  refine ⟨?_, (Hex.plain_encodeChars bytes).blank⟩
  cases bytes with
  | nil => exact absurd rfl h
  | cons b rest => exact List.cons_ne_nil _ _

theorem isField_octets (a : Octets 32) : IsField (Hex.encodeChars a.bytes) := by
  refine isField_encodeChars fun he => ?_
  have hl := a.length_eq
  rw [he] at hl
  cases hl

/-- Fixed-width fields in hexadecimal, with one blank between them. -/
def hexFields (a : Octets 32) (as : List (Octets 32)) : String :=
  String.ofList (joined (Hex.encodeChars a.bytes) (as.map fun a => Hex.encodeChars a.bytes))

variable (a : Octets 32) (as : List (Octets 32))

theorem isField_of_mem : ∀ f ∈ as.map fun a => Hex.encodeChars a.bytes, IsField f := by
  intro f hf
  obtain ⟨a, _, rfl⟩ := List.mem_map.1 hf
  exact isField_octets a

theorem fields_hexFields : fields (hexFields a as) = (a :: as).map Octets.toHex := by
  rw [hexFields, fields_joined (isField_octets a) (isField_of_mem as), List.map_cons,
    List.map_map]
  rfl

theorem isFileReference_hexFields : isFileReference (hexFields a as) = false := by
  have hpoint : '.' ∉ joined (Hex.encodeChars a.bytes)
      (as.map fun a => Hex.encodeChars a.bytes) := by
    simp only [joined, List.mem_append, List.mem_flatMap, List.mem_map, List.mem_cons, not_or,
      not_exists, not_and]
    refine ⟨(Hex.plain_encodeChars a.bytes).point, ?_⟩
    rintro _ ⟨b, _, rfl⟩
    exact ⟨by decide, (Hex.plain_encodeChars b.bytes).point⟩
  rw [isFileReference, hexFields, String.toList_ofList]
  exact not_occursIn hpoint

theorem requireText_hexFields (name : String) : requireText (hexFields a as) name = .ok () := by
  rw [requireText, hexFields, isBlankText_joined (isField_octets a)]
  rfl

theorem resolveWith_hexFields {fromFile : String → Action Workspace α}
    {fromText : String → Except Malformation α} {x : α} (h : fromText (hexFields a as) = .ok x)
    (w : Workspace) :
    (resolveWith fromFile fromText (hexFields a as)).exec w = (.ok (some x), w) := by
  have htrim : trim (hexFields a as) = hexFields a as :=
    trim_joined (isField_octets a) (isField_of_mem as)
  have hne : hexFields a as ≠ "" := by
    intro he
    obtain ⟨c, cs, hstart, _⟩ :=
      joined_start (isField_octets a) (as.map fun a => Hex.encodeChars a.bytes)
    rw [hexFields, hstart] at he
    have hl := congrArg String.toList he
    rw [String.toList_ofList] at hl
    cases hl
  simp only [resolveWith, htrim, if_neg hne, isFileReference_hexFields, h]
  rfl

theorem splitFields_hexFields (counts : List Nat) (b : Octets 32) :
    splitFields counts (hexFields a (b :: as)) = (a :: b :: as).map Octets.toHex := by
  rw [splitFields, fields_hexFields]
  rfl

end Text

def ChameleonParams.text (params : ChameleonParams) : String :=
  Text.hexFields params.g (params.p :: params.q :: params.hk :: params.tk.toList)

theorem ChameleonParams.ofFields_toFields {params : ChameleonParams} {d : Decoded}
    (h : params.decode = .ok d) : ofFields params.toFields = .ok params := by
  have hfields : ofFields? params.toFields = .ok params := by
    obtain ⟨g, p, q, hk, tk⟩ := params
    cases tk with
    | none =>
      refine bind_eq_ok.2 ⟨g, decodeField_toHex g "g",
        bind_eq_ok.2 ⟨p, decodeField_toHex p "p", ?_⟩⟩
      refine bind_eq_ok.2 ⟨q, decodeField_toHex q "q",
        bind_eq_ok.2 ⟨hk, decodeField_toHex hk "hk", ?_⟩⟩
      rfl
    | some tk =>
      refine bind_eq_ok.2 ⟨g, decodeField_toHex g "g",
        bind_eq_ok.2 ⟨p, decodeField_toHex p "p", ?_⟩⟩
      refine bind_eq_ok.2 ⟨q, decodeField_toHex q "q",
        bind_eq_ok.2 ⟨hk, decodeField_toHex hk "hk", ?_⟩⟩
      exact bind_eq_ok.2 ⟨tk, decodeField_toHex tk "tk", rfl⟩
  exact bind_eq_ok.2 ⟨params, hfields, bind_eq_ok.2 ⟨d, h, rfl⟩⟩

theorem resolveParams_text {params : ChameleonParams} {d : ChameleonParams.Decoded}
    (h : params.decode = .ok d) (w : Workspace) :
    (resolveParams params.text).exec w = (.ok (some params), w) := by
  refine Text.resolveWith_hexFields _ _ ?_ w
  rw [paramsOfText, Text.splitFields_hexFields]
  have htext : (params.g :: params.p :: params.q :: params.hk :: params.tk.toList).map
      Octets.toHex = params.toFields := by
    cases htk : params.tk <;> simp only [ChameleonParams.toFields, htk] <;> rfl
  rw [htext, ChameleonParams.ofFields_toFields h]

def PublicKey.text (key : PublicKey) : String :=
  Text.hexFields key.coordinates.1 [key.coordinates.2]

theorem resolvePublicKey_text {key : PublicKey}
    (h : Secp256k1.pointOf? key.coordinates.1 key.coordinates.2 = some key.point)
    (w : Workspace) :
    (resolvePublicKey key.text).exec w = (.ok (some key), w) := by
  refine Text.resolveWith_hexFields _ _ ?_ w
  rw [publicKeyOfText, Text.splitFields_hexFields]
  have hx := decodeField_toHex key.coordinates.1 "X"
  have hy := decodeField_toHex key.coordinates.2 "Y"
  refine bind_eq_ok.2 ⟨_, hx, bind_eq_ok.2 ⟨_, hy, ?_⟩⟩
  rw [h]
  rfl

end RedactableLedger
