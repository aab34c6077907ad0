import RedactableLedger.Proofs.Generated
import RedactableLedger.Proofs.Material
import RedactableLedger.Proofs.Text.Split

namespace RedactableLedger

open RedactableLedger.Action

variable {cs : List Char} {f argument : String} {fields : List String}

namespace Hex

/-- What is true of every digit: it stands for a value below sixteen, which is written as the
digit in lower case. -/
theorem digit_of_isSome {c : Char} (h : (valueOf? c).isSome = true) :
    ∃ v < 16, value? (UInt8.ofNat c.toNat) = some (UInt8.ofNat v) ∧ digit v = c.toLower := by
  have hascii : c.toNat < 128 := by
    by_contra hn
    rw [valueOf?, if_neg hn] at h
    cases h
  have hall : ∀ n < 128, (valueOf? (Char.ofNat n)).isSome = true →
      ∃ v < 16, value? (UInt8.ofNat (Char.ofNat n).toNat) = some (UInt8.ofNat v) ∧
        digit v = (Char.ofNat n).toLower := by
    decide
  rw [← Char.ofNat_toNat c] at h ⊢
  exact hall _ hascii h

theorem plain_of_digits (h : ∀ c ∈ cs, (valueOf? c).isSome = true) : Plain cs := by
  have hall : ∀ n < 128, (valueOf? (Char.ofNat n)).isSome = true →
      isBlank (Char.ofNat n) = false := by
    decide
  have hascii : ∀ c ∈ cs, c.toNat < 128 := by
    intro c hc
    by_contra hn
    have hc := h c hc
    rw [valueOf?, if_neg hn] at hc
    cases hc
  refine ⟨hascii, fun c hc => ?_, fun hc => absurd (h _ hc) (by decide)⟩
  have hdigit := h c hc
  rw [← Char.ofNat_toNat c] at hdigit ⊢
  exact hall _ (hascii c hc) hdigit

/-- Digits in pairs are read as bytes, and these are written as the digits in lower case. -/
theorem exists_decodeFrom (n : Nat) (hlength : cs.length = 2 * n)
    (h : ∀ c ∈ cs, (valueOf? c).isSome = true) (position : Nat) :
    ∃ bytes, decodeFrom position (cs.map fun c => UInt8.ofNat c.toNat) = .ok bytes ∧
      encodeChars bytes = cs.map Char.toLower := by
  induction n generalizing cs position with
  | zero =>
    cases List.eq_nil_of_length_eq_zero hlength
    exact ⟨[], rfl, rfl⟩
  | succ n ih =>
    obtain _ | ⟨high, _ | ⟨low, cs⟩⟩ := cs
    · cases hlength
    · rw [List.length_singleton] at hlength
      omega
    · obtain ⟨v, hv, hhigh, hhigh'⟩ := digit_of_isSome (h high (.head _))
      obtain ⟨u, hu, hlow, hlow'⟩ := digit_of_isSome (h low (.tail _ (.head _)))
      have hrest : cs.length = 2 * n := by
        simp only [List.length_cons] at hlength
        omega
      obtain ⟨bytes, hbytes, htext⟩ :=
        ih hrest (fun c hc => h c (.tail _ (.tail _ hc))) (position + 2)
      refine ⟨(UInt8.ofNat v * 16 + UInt8.ofNat u) :: bytes, ?_, ?_⟩
      · simp only [List.map_cons, decodeFrom, hhigh, hlow, hbytes]
        rfl
      · have hvalue : (UInt8.ofNat v * 16 + UInt8.ofNat u).toNat = 16 * v + u := by
          simp
          omega
        rw [encodeChars, hvalue, Nat.mul_add_div (by decide), Nat.div_eq_of_lt hu,
          Nat.mul_add_mod, Nat.mod_eq_of_lt hu, Nat.add_zero, hhigh', hlow', htext]
        rfl

end Hex

theorem decodeField_eq_ok {n : Nat} {a : Octets n} {name : String}
    (hsize : f.utf8ByteSize = 2 * n) (h : Hex.decode f = .ok a.bytes) :
    decodeField n f name = .ok a := by
  rw [decodeField, dif_pos hsize]
  split
  · rename_i he
    rw [h] at he
    cases he
  · rename_i bytes he
    rw [h] at he
    cases he
    rfl

namespace Text

/-- A field of the width of keys and parameters, in hexadecimal digits of either case. -/
structure IsHexField (f : String) : Prop where
  length : f.toList.length = fieldLength
  digits : ∀ c ∈ f.toList, (Hex.valueOf? c).isSome = true

theorem IsHexField.isWide (h : IsHexField f) :
    IsWide f.toList := ⟨h.length, Hex.plain_of_digits h.digits⟩

/-- A field stands for bytes that are written as the field in lower case. -/
theorem IsHexField.exists_octets (h : IsHexField f) :
    ∃ a : Octets 32, a.toHex = f.toLower ∧ ∀ name, decodeField 32 f name = .ok a := by
  obtain ⟨bytes, hbytes, htext⟩ := Hex.exists_decodeFrom 32 h.length h.digits 0
  have hsize : f.utf8ByteSize = 64 := by
    rw [← String.ofList_toList (s := f), utf8ByteSize_ofList h.isWide.plain.ascii, h.length]
    rfl
  have hdecode : Hex.decode f = .ok bytes := by
    rw [← hbytes, Hex.decode, ← Bytes.ofText_ofList h.isWide.plain.ascii, String.ofList_toList]
  have hlength : bytes.length = 32 := by
    rw [Hex.length_of_decode hdecode, hsize]
  refine ⟨⟨bytes, hlength⟩, ?_, fun name => decodeField_eq_ok hsize hdecode⟩
  have hlower : f.toLower = f.map Char.toLower := rfl
  rw [Octets.toHex, Hex.encode, htext, hlower, ← String.toList_map, String.ofList_toList]

theorem isHexField_toHex (a : Octets 32) : IsHexField a.toHex where
  length := by
    rw [Octets.toHex, Hex.encode, String.toList_ofList, Hex.length_encodeChars, a.length_eq]
    rfl
  digits := by
    have hall : ("0123456789abcdef".toList.all fun c => (Hex.valueOf? c).isSome) = true := by
      decide
    intro c hc
    rw [Octets.toHex, Hex.encode, String.toList_ofList] at hc
    exact List.all_eq_true.1 hall c (Hex.mem_encodeChars hc)

end Text

theorem Octets.ofNatBE_toNatBE (a : Octets n) : Octets.ofNatBE n a.toNatBE = a := by
  obtain ⟨bytes, rfl⟩ := a
  exact Octets.ext (Bytes.ofNatBE_toNatBE bytes)

theorem Field.val_of_ofNat? {p v : Nat} {a : Fin p} (h : Field.ofNat? p v = some a) :
    a.val = v := by
  rw [Field.ofNat?] at h
  split at h
  · cases h
    rfl
  · cases h

theorem Secp256k1.coordinates_of_pointOf? {x y : Octets 32} {point : GroupPoint}
    (h : pointOf? x y = some point) :
    PublicKey.coordinates ⟨point⟩ = (x, y) := by
  rw [pointOf?] at h
  split at h
  · rename_i x' y' hx hy
    dsimp only at h
    split at h
    · cases h
      have hcoordinates : PublicKey.coordinates ⟨.affine x' y'⟩ =
          (Octets.ofNatBE 32 x'.val, Octets.ofNatBE 32 y'.val) := rfl
      rw [hcoordinates, Field.val_of_ofNat? hx, Field.val_of_ofNat? hy, Octets.ofNatBE_toNatBE,
        Octets.ofNatBE_toNatBE]
    · cases h
  · cases h

theorem Secp256k1.ofNatBE_of_scalarOf? {d : Octets 32} {k : Scalar} (h : scalarOf? d = some k) :
    Octets.ofNatBE 32 k.val = d := by
  rw [scalarOf?] at h
  split at h
  · rename_i k' hk
    split at h
    · cases h
    · cases h
      rw [Field.val_of_ofNat? hk, Octets.ofNatBE_toNatBE]
  · cases h

/-- The fields that material is written as; a commitment as those of its key. -/
def Material.toFields : Material → List String
  | publicKey found => found.elim [] PublicKey.toFields
  | privateKey found => found.elim [] PrivateKey.toFields
  | commitment found =>
    found.elim [] fun bytes => [Hex.encode (bytes.take 32), Hex.encode (bytes.drop 32)]
  | params found => found.elim [] ChameleonParams.toFields

namespace Resolver

def counts : Resolver → List Nat
  | publicKey => [2, 3]
  | privateKey => [3]
  | commitment => [2, 3]
  | params => [4, 5]

/-- The fields that are used: the secret does not count where a public key is asked for. -/
def used (r : Resolver) (fields : List String) : List String :=
  match r with
  | publicKey => fields.take 2
  | privateKey => fields
  | commitment => fields.take 2
  | params => fields

def nothing : Resolver → Material
  | publicKey => .publicKey none
  | privateKey => .privateKey none
  | commitment => .commitment none
  | params => .params none

def publicKeyOfFields : List String → Except Malformation PublicKey
  | [x, y] => PublicKey.ofFields x y
  | [x, y, _] => PublicKey.ofFields x y
  | fields => .error (.publicKeyFields fields.length)

def privateKeyOfFields : List String → Except Malformation PrivateKey
  | [x, y, d] => PrivateKey.ofFields x y d
  | fields => .error (.privateKeyFields fields.length)

def ofFields (r : Resolver) (fields : List String) : Except Malformation Material :=
  match r with
  | publicKey => (publicKeyOfFields fields).map fun key => .publicKey (some key)
  | privateKey => (privateKeyOfFields fields).map fun key => .privateKey (some key)
  | commitment =>
    (publicKeyOfFields fields).map fun key => .commitment (some key.address.octets.bytes)
  | params => (ChameleonParams.ofFields fields).map fun params => .params (some params)

end Resolver

section

open RedactableLedger.Text

variable {x y d : String} {r : Resolver} {m : Material} {w : Workspace}

theorem decodeField_toLower (h : IsHexField f) (name : String) :
    decodeField 32 f.toLower name = decodeField 32 f name := by
  obtain ⟨a, htext, hdecode⟩ := h.exists_octets
  rw [← htext, decodeField_toHex, hdecode]

theorem PublicKey.ofFields_toLower (hx : IsHexField x) (hy : IsHexField y) :
    ofFields x.toLower y.toLower = ofFields x y := by
  rw [ofFields, ofFields, decodeField_toLower hx, decodeField_toLower hy]

theorem PrivateKey.ofFields_toLower (hx : IsHexField x) (hy : IsHexField y)
    (hd : IsHexField d) :
    ofFields x.toLower y.toLower d.toLower = ofFields x y d := by
  rw [ofFields, ofFields, PublicKey.ofFields_toLower hx hy, decodeField_toLower hd]

theorem PublicKey.toFields_of_ofFields (hx : IsHexField x) (hy : IsHexField y) {key : PublicKey}
    (h : ofFields x y = .ok key) : key.toFields = [x.toLower, y.toLower] := by
  obtain ⟨a, hatext, ha⟩ := hx.exists_octets
  obtain ⟨b, hbtext, hb⟩ := hy.exists_octets
  obtain ⟨a', ha', h⟩ := bind_eq_ok.1 h
  obtain ⟨b', hb', h⟩ := bind_eq_ok.1 h
  rw [ha] at ha'
  rw [hb] at hb'
  cases ha'
  cases hb'
  split at h
  · rename_i point hread
    cases h
    rw [toFields, Secp256k1.coordinates_of_pointOf? hread, hatext, hbtext]
  · cases h

/-- A private key is only accepted with the coordinates of the public key of its secret. -/
theorem PrivateKey.toFields_of_ofFields (hx : IsHexField x) (hy : IsHexField y)
    (hd : IsHexField d) {key : PrivateKey} (h : ofFields x y d = .ok key) :
    key.toFields = [x.toLower, y.toLower, d.toLower] := by
  obtain ⟨c, hctext, hc⟩ := hd.exists_octets
  obtain ⟨expected, hexpected, h⟩ := bind_eq_ok.1 h
  obtain ⟨c', hc', h⟩ := bind_eq_ok.1 h
  rw [hc] at hc'
  cases hc'
  split at h
  · cases h
  · rename_i secret hread
    dsimp only at h
    split at h
    · rename_i hmatch
      cases h
      have hsecret : (ofSecret secret).secret = secret := rfl
      rw [toFields, hmatch, PublicKey.toFields_of_ofFields hx hy hexpected, hsecret,
        Secp256k1.ofNatBE_of_scalarOf? hread, hctext]
      rfl
    · cases h

/-- Hexadecimal fields of the right number are parameters that are written as these fields in
lower case. -/
theorem ChameleonParams.exists_ofFields? (hf : ∀ f ∈ fields, IsHexField f)
    (hn : fields.length ∈ [4, 5]) :
    ∃ params, params.toFields = fields.map String.toLower ∧ ofFields? fields = .ok params ∧
      ofFields? (fields.map String.toLower) = .ok params := by
  have hcount : fields.length = 4 ∨ fields.length = 5 := by simpa using hn
  obtain hfour | hfive := hcount
  · obtain ⟨g, p, q, hk, rfl⟩ := List.length_eq_four.1 hfour
    obtain ⟨a, hatext, ha⟩ := (hf g (by simp)).exists_octets
    obtain ⟨b, hbtext, hb⟩ := (hf p (by simp)).exists_octets
    obtain ⟨c, hctext, hc⟩ := (hf q (by simp)).exists_octets
    obtain ⟨d, hdtext, hd⟩ := (hf hk (by simp)).exists_octets
    refine ⟨⟨a, b, c, d, none⟩, ?_, ?_, ?_⟩
    · simp [toFields, hatext, hbtext, hctext, hdtext]
    · rw [ofFields?, ha, hb, hc, hd]
      rfl
    · simp only [List.map_cons, List.map_nil, ← hatext, ← hbtext, ← hctext, ← hdtext, ofFields?,
        decodeField_toHex]
      rfl
  · obtain ⟨g, rest, rfl⟩ := List.exists_cons_of_length_eq_add_one hfive
    obtain ⟨p, q, hk, tk, rfl⟩ := List.length_eq_four.1 (Nat.succ.inj hfive)
    obtain ⟨a, hatext, ha⟩ := (hf g (by simp)).exists_octets
    obtain ⟨b, hbtext, hb⟩ := (hf p (by simp)).exists_octets
    obtain ⟨c, hctext, hc⟩ := (hf q (by simp)).exists_octets
    obtain ⟨d, hdtext, hd⟩ := (hf hk (by simp)).exists_octets
    obtain ⟨e, hetext, he⟩ := (hf tk (by simp)).exists_octets
    refine ⟨⟨a, b, c, d, some e⟩, ?_, ?_, ?_⟩
    · simp [toFields, hatext, hbtext, hctext, hdtext, hetext]
    · rw [ofFields?, ha, hb, hc, hd, he]
      rfl
    · simp only [List.map_cons, List.map_nil, ← hatext, ← hbtext, ← hctext, ← hdtext, ← hetext,
        ofFields?, decodeField_toHex]
      rfl

theorem ChameleonParams.ofFields_toLower (hf : ∀ f ∈ fields, IsHexField f)
    (hn : fields.length ∈ [4, 5]) :
    ofFields (fields.map String.toLower) = ofFields fields := by
  obtain ⟨params, _, hread, hlower⟩ := exists_ofFields? hf hn
  rw [ofFields, ofFields, hread, hlower]

theorem ChameleonParams.toFields_of_ofFields (hf : ∀ f ∈ fields, IsHexField f)
    (hn : fields.length ∈ [4, 5]) {params : ChameleonParams}
    (h : ofFields fields = .ok params) : params.toFields = fields.map String.toLower := by
  obtain ⟨params', hfields, hread, _⟩ := exists_ofFields? hf hn
  obtain ⟨params'', hread', h⟩ := bind_eq_ok.1 h
  obtain ⟨_, _, h⟩ := bind_eq_ok.1 h
  rw [hread] at hread'
  cases hread'
  cases h
  exact hfields

namespace Resolver

theorem exists_of_two_or_three (hn : fields.length ∈ [2, 3]) :
    ∃ x y, fields = [x, y] ∨ ∃ d, fields = [x, y, d] := by
  have hcount : fields.length = 2 ∨ fields.length = 3 := by simpa using hn
  obtain htwo | hthree := hcount
  · obtain ⟨x, y, rfl⟩ := List.length_eq_two.1 htwo
    exact ⟨x, y, .inl rfl⟩
  · obtain ⟨x, y, d, rfl⟩ := List.length_eq_three.1 hthree
    exact ⟨x, y, .inr ⟨d, rfl⟩⟩

theorem publicKeyOfFields_toLower (hf : ∀ f ∈ fields, IsHexField f)
    (hn : fields.length ∈ [2, 3]) :
    publicKeyOfFields ((fields.take 2).map String.toLower) = publicKeyOfFields fields := by
  obtain ⟨x, y, rfl | ⟨d, rfl⟩⟩ := exists_of_two_or_three hn
  · exact PublicKey.ofFields_toLower (hf x (by simp)) (hf y (by simp))
  · exact PublicKey.ofFields_toLower (hf x (by simp)) (hf y (by simp))

theorem toFields_of_publicKeyOfFields (hf : ∀ f ∈ fields, IsHexField f)
    (hn : fields.length ∈ [2, 3]) {key : PublicKey} (h : publicKeyOfFields fields = .ok key) :
    key.toFields = (fields.take 2).map String.toLower := by
  obtain ⟨x, y, rfl | ⟨d, rfl⟩⟩ := exists_of_two_or_three hn
  · exact PublicKey.toFields_of_ofFields (hf x (by simp)) (hf y (by simp)) h
  · exact PublicKey.toFields_of_ofFields (hf x (by simp)) (hf y (by simp)) h

/-- Reading does not depend on the case of digits nor on fields that are not used. -/
theorem ofFields_toLower (hf : ∀ f ∈ fields, IsHexField f) (hn : fields.length ∈ r.counts) :
    r.ofFields ((r.used fields).map String.toLower) = r.ofFields fields := by
  cases r with
  | publicKey => exact congrArg (Except.map _) (publicKeyOfFields_toLower hf hn)
  | privateKey =>
    refine congrArg (Except.map _) ?_
    obtain ⟨x, y, d, rfl⟩ := List.length_eq_three.1 (List.mem_singleton.1 hn)
    exact PrivateKey.ofFields_toLower (hf x (by simp)) (hf y (by simp)) (hf d (by simp))
  | commitment => exact congrArg (Except.map _) (publicKeyOfFields_toLower hf hn)
  | params => exact congrArg (Except.map _) (ChameleonParams.ofFields_toLower hf hn)

theorem toFields_of_ofFields (hf : ∀ f ∈ fields, IsHexField f) (hn : fields.length ∈ r.counts)
    (h : r.ofFields fields = .ok m) : m.toFields = (r.used fields).map String.toLower := by
  cases r with
  | publicKey =>
    obtain ⟨key, hkey, rfl⟩ := map_eq_ok.1 h
    exact toFields_of_publicKeyOfFields hf hn hkey
  | privateKey =>
    obtain ⟨key, hkey, rfl⟩ := map_eq_ok.1 h
    obtain ⟨x, y, d, rfl⟩ := List.length_eq_three.1 (List.mem_singleton.1 hn)
    exact PrivateKey.toFields_of_ofFields (hf x (by simp)) (hf y (by simp))
      (hf d (by simp)) hkey
  | commitment =>
    obtain ⟨key, hkey, rfl⟩ := map_eq_ok.1 h
    have hbytes : key.address.octets.bytes =
        key.coordinates.1.bytes ++ key.coordinates.2.bytes := rfl
    rw [used, ← toFields_of_publicKeyOfFields hf hn hkey, Material.toFields,
      Option.elim_some, hbytes, List.take_left' key.coordinates.1.length_eq,
      List.drop_left' key.coordinates.1.length_eq]
    rfl
  | params =>
    obtain ⟨params, hparams, rfl⟩ := map_eq_ok.1 h
    exact ChameleonParams.toFields_of_ofFields hf hn hparams

theorem publicKeyOfText_eq (text : String) :
    publicKeyOfText text = publicKeyOfFields (splitFields [2, 3] text) := by
  rw [publicKeyOfText]
  rcases splitFields [2, 3] text with _ | ⟨x, _ | ⟨y, _ | ⟨d, _ | _⟩⟩⟩ <;> rfl

theorem privateKeyOfText_eq (text : String) :
    privateKeyOfText text = privateKeyOfFields (splitFields [3] text) := by
  rw [privateKeyOfText]
  rcases splitFields [3] text with _ | ⟨x, _ | ⟨y, _ | ⟨d, _ | _⟩⟩⟩ <;> rfl

theorem resolve_commitment (argument : String) : commitment.resolve argument =
    (fun found => .commitment (found.map fun key => key.address.octets.bytes)) <$>
      resolvePublicKey argument := by
  have hcommitment : resolveCommitment argument =
      (Option.map fun key => key.address.octets.bytes) <$> resolvePublicKey argument := rfl
  rw [resolve, hcommitment, ← comp_map]
  rfl

/-- An argument that does not name a file is resolved from what it is split into, in every
workspace alike. -/
theorem exec_inline (r : Resolver) (hblank : isBlankText argument = false)
    (hfile : isFileReference (trim argument) = false) (w : Workspace) :
    (r.resolve argument).exec w =
      ((r.ofFields (splitFields r.counts (trim argument))).mapError .decoding, w) := by
  have hne : trim argument ≠ "" := fun he => by simp [trim_eq_empty.1 he] at hblank
  have hexec : ∀ {α : Type} (fromFile : String → Action Workspace α) fromText,
      (resolveWith fromFile fromText argument).exec w =
        (((fromText (trim argument)).map some).mapError .decoding, w) := by
    intro α fromFile fromText
    rw [resolveWith]
    simp only [if_neg hne, hfile, Bool.false_eq_true, if_false]
    rw [exec_map]
    cases fromText (trim argument) <;> rfl
  have hmap : ∀ {α : Type} (r : Except Malformation α) (f : Option α → Material),
      ((r.map some).mapError Fault.decoding).map f =
        (r.map fun x => f (some x)).mapError .decoding := by
    intro α r f
    cases r <;> rfl
  cases r with
  | publicKey =>
    rw [resolve, exec_map, resolvePublicKey, hexec, hmap, publicKeyOfText_eq]
    rfl
  | privateKey =>
    rw [resolve, exec_map, resolvePrivateKey, hexec, hmap, privateKeyOfText_eq]
    rfl
  | commitment =>
    rw [resolve_commitment, exec_map, resolvePublicKey, hexec, hmap, publicKeyOfText_eq]
    rfl
  | params =>
    rw [resolve, exec_map, resolveParams, hexec, hmap]
    rfl

theorem exec_blank (r : Resolver) (h : isBlankText argument = true) (w : Workspace) :
    (r.resolve argument).exec w = (.ok r.nothing, w) := by
  cases r with
  | publicKey =>
    rw [resolve, exec_map, resolvePublicKey, Workspace.exec_resolveWith_blank _ _ h]
    rfl
  | privateKey =>
    rw [resolve, exec_map, resolvePrivateKey, Workspace.exec_resolveWith_blank _ _ h]
    rfl
  | commitment =>
    rw [resolve_commitment, exec_map, resolvePublicKey, Workspace.exec_resolveWith_blank _ _ h]
    rfl
  | params =>
    rw [resolve, exec_map, resolveParams, Workspace.exec_resolveWith_blank _ _ h]
    rfl

theorem ne_nothing (h : isBlankText argument = false)
    (hm : ((r.resolve argument).exec w).1 = .ok m) :
    m ≠ r.nothing := by
  rintro rfl
  cases r with
  | publicKey =>
    obtain ⟨found, hfound, he⟩ := exec_map_ok (Prod.ext hm rfl)
    cases he
    cases Workspace.yields_resolveWith _ _ h _ _ (congrArg Prod.fst hfound)
  | privateKey =>
    obtain ⟨found, hfound, he⟩ := exec_map_ok (Prod.ext hm rfl)
    cases he
    cases Workspace.yields_resolveWith _ _ h _ _ (congrArg Prod.fst hfound)
  | commitment =>
    obtain ⟨found, hfound, he⟩ := exec_map_ok (Prod.ext hm rfl)
    cases he
    cases yields_isSome_resolveCommitment h _ _ (congrArg Prod.fst hfound)
  | params =>
    obtain ⟨found, hfound, he⟩ := exec_map_ok (Prod.ext hm rfl)
    cases he
    cases Workspace.yields_resolveWith _ _ h _ _ (congrArg Prod.fst hfound)

theorem two_le_of_counts {n : Nat} (h : n ∈ r.counts) : 2 ≤ n := by
  cases r <;> simp only [counts, List.mem_cons, List.not_mem_nil, or_false] at h <;> omega

theorem exec_of_holds (h : Holds fields argument) (hf : ∀ f ∈ fields, IsHexField f)
    (hn : fields.length ∈ r.counts) (w : Workspace) :
    (r.resolve argument).exec w = ((r.ofFields fields).mapError .decoding, w) := by
  have hwide : ∀ f ∈ fields, IsWide f.toList := fun f hmem => (hf f hmem).isWide
  have htwo := two_le_of_counts hn
  rw [exec_inline r (isBlankText_of_holds h hwide htwo) (isFileReference_of_holds h hwide),
    splitFields_of_holds h hwide hn htwo]

theorem length_used (hn : fields.length ∈ r.counts) : (r.used fields).length ∈ r.counts := by
  have htwo : (fields.take 2).length = 2 := List.length_take_of_le (two_le_of_counts hn)
  cases r with
  | publicKey => exact htwo ▸ .head _
  | privateKey => exact hn
  | commitment => exact htwo ▸ .head _
  | params => exact hn

theorem exec_toFields (hf : ∀ f ∈ fields, IsHexField f) (hn : fields.length ∈ r.counts)
    (hm : r.ofFields fields = .ok m) (h : Holds m.toFields argument) (w : Workspace) :
    (r.resolve argument).exec w = (.ok m, w) := by
  have hused : ∀ f ∈ r.used fields, f ∈ fields := by
    intro f hmem
    cases r with
    | publicKey => exact List.mem_of_mem_take hmem
    | privateKey => exact hmem
    | commitment => exact List.mem_of_mem_take hmem
    | params => exact hmem
  have hhex : ∀ f ∈ (r.used fields).map String.toLower, IsHexField f := by
    intro f hmem
    obtain ⟨g, hg, rfl⟩ := List.mem_map.1 hmem
    obtain ⟨a, htext, _⟩ := (hf g (hused g hg)).exists_octets
    rw [← htext]
    exact isHexField_toHex a
  rw [toFields_of_ofFields hf hn hm] at h
  have hcount : ((r.used fields).map String.toLower).length ∈ r.counts := by
    rw [List.length_map]
    exact length_used hn
  rw [exec_of_holds h hhex hcount, ofFields_toLower hf hn, hm]
  rfl

/-- Hexadecimal fields are resolved to the same in every layout, and material is written as the
fields it was read from in lower case; a private key that is accepted has the public key of its
secret. Any other argument is resolved as well, to nothing only if it is blank, and is cut
nowhere but between characters. -/
theorem inline_canonical (r : Resolver) :
    (∀ fields, fields.length ∈ r.counts → (∀ f ∈ fields, IsHexField f) →
      (∀ argument w, Holds fields argument →
        (r.resolve argument).exec w = ((r.ofFields fields).mapError .decoding, w)) ∧
      ∀ m, r.ofFields fields = .ok m →
        m.toFields = (r.used fields).map String.toLower ∧
        (r = .privateKey → ∃ secret, m = .privateKey (some (.ofSecret secret)) ∧
          (PublicKey.ofSecret secret).toFields ++ [(Octets.ofNatBE 32 secret.val).toHex] =
            fields.map String.toLower) ∧
        ∀ argument w, Holds m.toFields argument → (r.resolve argument).exec w = (.ok m, w)) ∧
    ∀ argument w,
      (isBlankText argument = true → (r.resolve argument).exec w = (.ok r.nothing, w)) ∧
      (isBlankText argument = false →
        (∀ m, ((r.resolve argument).exec w).1 = .ok m → m ≠ r.nothing) ∧
        (isFileReference (trim argument) = false → (r.resolve argument).exec w =
          ((r.ofFields (splitFields r.counts (trim argument))).mapError .decoding, w))) ∧
      (splitFields r.counts (trim argument) = Text.fields argument ∨
        ∃ field, Text.fields argument = [field] ∧
          Cut field (splitFields r.counts (trim argument)) ∧
          (splitFields r.counts (trim argument)).length ∈ r.counts) := by
  refine ⟨fun fields hn hf => ⟨fun argument w h => exec_of_holds h hf hn w,
    fun m hm => ⟨?_, ?_, ?_⟩⟩,
    fun argument w =>
    ⟨fun h => r.exec_blank h w, fun h => ⟨fun m => ne_nothing h, fun hfile => ?_⟩, ?_⟩⟩
  · exact toFields_of_ofFields hf hn hm
  · rintro rfl
    have hfields := toFields_of_ofFields hf hn hm
    obtain ⟨⟨secret, publicKey, rfl⟩, _, rfl⟩ := map_eq_ok.1 hm
    exact ⟨secret, rfl, hfields⟩
  · exact fun argument w h => exec_toFields hf hn hm h w
  · exact r.exec_inline h hfile w
  · rw [← fields_trim argument]
    exact splitFields_cases r.counts (trim argument)

def baseFields : List String :=
  ["79BE667EF9DCBBAC55A06295CE870B07029BFCDB2DCE28D959F2815B16F81798",
    "483ADA7726A3C4655DA4FBFC0E1108A8FD17B448A68554199C47D08FFB10D4B8"]

theorem isHexField_baseFields : ∀ f ∈ baseFields, IsHexField f := by
  have hall : (baseFields.all fun f =>
      f.toList.length == fieldLength && f.toList.all fun c => (Hex.valueOf? c).isSome) =
        true := by
    decide
  intro f hf
  have h := List.all_eq_true.1 hall f hf
  rw [Bool.and_eq_true] at h
  exact ⟨eq_of_beq h.1, List.all_eq_true.1 h.2⟩

theorem ofFields_baseFields :
    ofFields .publicKey baseFields = .ok (.publicKey (some baseKey)) := by
  have hkey : publicKeyOfFields baseFields = .ok baseKey := by
    decide
  rw [ofFields, hkey]
  rfl

def gluedBaseFields : String := " " ++ String.join baseFields ++ "\n"

theorem holds_gluedBaseFields : Holds baseFields gluedBaseFields := by
  refine ⟨[' '], _, ['\n'], ?_, ?_, .glued _, ?_⟩
  · exact List.forall_mem_singleton.2 rfl
  · exact List.forall_mem_singleton.2 rfl
  · simp [gluedBaseFields, baseFields, String.join]

/-- The key is found, and written in lower case. -/
theorem baseKey_of_glued :
    (publicKey.resolve gluedBaseFields).exec .empty =
      (.ok (.publicKey (some baseKey)), .empty) ∧
      baseKey.toFields = baseFields.map String.toLower := by
  obtain ⟨hread, hwritten⟩ :=
    (inline_canonical .publicKey).1 baseFields (by decide) isHexField_baseFields
  refine ⟨?_, (hwritten _ ofFields_baseFields).1⟩
  rw [hread _ _ holds_gluedBaseFields, ofFields_baseFields]
  rfl

end Resolver

end

end RedactableLedger
