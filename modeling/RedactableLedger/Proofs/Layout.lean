import RedactableLedger.Proofs.Outcome
import RedactableLedger.Transaction.Record

namespace RedactableLedger

namespace Layout

/-- Reading accepts exactly what writing a fitting value produces, whatever follows it. -/
def Exact (l : Layout α) (fits : α → Prop) : Prop :=
  ∀ bytes v rest, l.decode bytes = .ok (v, rest) ↔ bytes = l.encode v ++ rest ∧ fits v

theorem Exact.decode_encode {l : Layout α} (h : l.Exact fits) (hv : fits v) (rest : Bytes) :
    l.decode (l.encode v ++ rest) = .ok (v, rest) :=
  (h _ _ _).2 ⟨rfl, hv⟩

theorem Exact.read_eq_ok {l : Layout α} (h : l.Exact fits) :
    l.read bytes = .ok v ↔ l.encode v <+: bytes ∧ fits v := by
  constructor
  · intro hr
    rw [read] at hr
    cases hd : l.decode bytes with
    | error e =>
      rw [hd] at hr
      cases hr
    | ok p =>
      rw [hd] at hr
      cases hr
      obtain ⟨hb, hv⟩ := (h _ _ _).1 hd
      exact ⟨⟨p.2, hb.symm⟩, hv⟩
  · rintro ⟨⟨rest, rfl⟩, hv⟩
    rw [read, h.decode_encode hv rest]
    rfl

theorem Exact.read_encode {l : Layout α} (h : l.Exact fits) (hv : fits v) :
    l.read (l.encode v) = .ok v :=
  h.read_eq_ok.2 ⟨List.prefix_rfl, hv⟩

theorem Exact.fits_of_read {l : Layout α} (h : l.Exact fits) (hr : l.read bytes = .ok v) :
    fits v :=
  (h.read_eq_ok.1 hr).2

theorem takeBytes_eq_ok {n : Nat} {bytes front rest : Bytes} :
    takeBytes n bytes = .ok (front, rest) ↔ bytes = front ++ rest ∧ front.length = n := by
  constructor
  · exact eq_append_of_takeBytes
  · rintro ⟨rfl, h⟩
    exact takeBytes_append h

theorem exact_octets (n : Nat) : (octets n).Exact fun _ => True := by
  intro bytes v rest
  simp only [octets, and_true]
  constructor
  · intro h
    split at h
    · cases h
      exact (List.take_append_drop n bytes).symm
    · cases h
  · rintro rfl
    have hn : n ≤ (v.bytes ++ rest).length := by
      rw [List.length_append, v.length_eq]
      exact Nat.le_add_right n _
    rw [dif_pos hn]
    congr 2
    · exact Octets.ext (List.take_left' v.length_eq)
    · exact List.drop_left' v.length_eq

theorem exact_natural (n : Nat) : (natural n).Exact (· < Nat.pow 256 n) := by
  intro bytes v rest
  simp only [natural, bind_eq_ok, Prod.exists]
  constructor
  · rintro ⟨front, rest', ht, he⟩
    obtain ⟨rfl, hf⟩ := takeBytes_eq_ok.1 ht
    cases he
    have hw := Bytes.ofNatLE_toNatLE front
    have hlt := Bytes.toNatLE_lt front
    rw [hf] at hw hlt
    rw [hw]
    exact ⟨rfl, hlt⟩
  · rintro ⟨rfl, hv⟩
    refine ⟨_, rest, takeBytes_append (Bytes.length_ofNatLE n v), ?_⟩
    rw [Bytes.toNatLE_ofNatLE, Nat.mod_eq_of_lt hv]
    rfl

theorem Exact.map {l : Layout α} (h : l.Exact fits) {of : α → β} {back : β → α}
    (hof : ∀ a, fits a → back (of a) = a ∧ fits' (of a))
    (hback : ∀ b, fits' b → of (back b) = b ∧ fits (back b)) : (l.map of back).Exact fits' := by
  intro bytes b rest
  simp only [Layout.map, bind_eq_ok, Prod.exists]
  constructor
  · rintro ⟨a, rest', hd, he⟩
    obtain ⟨rfl, ha⟩ := (h _ _ _).1 hd
    cases he
    rw [(hof a ha).1]
    exact ⟨rfl, (hof a ha).2⟩
  · rintro ⟨rfl, hb⟩
    refine ⟨back b, rest, h.decode_encode (hback b hb).2 rest, ?_⟩
    rw [(hback b hb).1]
    rfl

theorem Exact.pair {a : Layout α} {b : Layout β} (ha : a.Exact fits) (hb : b.Exact fits') :
    (a.pair b).Exact fun v => fits v.1 ∧ fits' v.2 := by
  rintro bytes ⟨x, y⟩ rest
  simp only [Layout.pair, bind_eq_ok, Prod.exists]
  constructor
  · rintro ⟨x', rest₁, hdx, y', rest₂, hdy, he⟩
    obtain ⟨rfl, hx⟩ := (ha _ _ _).1 hdx
    obtain ⟨rfl, hy⟩ := (hb _ _ _).1 hdy
    cases he
    exact ⟨(List.append_assoc ..).symm, hx, hy⟩
  · rintro ⟨rfl, hx, hy⟩
    rw [List.append_assoc]
    exact ⟨x, _, ha.decode_encode hx _, y, rest, hb.decode_encode hy rest, rfl⟩

theorem exact_byte : byte.Exact fun _ => True :=
  (exact_natural 1).map
    (fun _ hv => ⟨UInt8.toNat_ofNat_of_lt' hv, trivial⟩)
    (fun b _ => ⟨UInt8.ofNat_toNat, b.toNat_lt⟩)

theorem exact_word : word.Exact fun _ => True :=
  (exact_natural 4).map
    (fun _ hv => ⟨UInt32.toNat_ofNat_of_lt' hv, trivial⟩)
    (fun b _ => ⟨UInt32.ofNat_toNat, b.toNat_lt⟩)

theorem exact_long : long.Exact fun _ => True :=
  (exact_natural 8).map
    (fun _ hv => ⟨UInt64.toNat_ofNat_of_lt' hv, trivial⟩)
    (fun b _ => ⟨UInt64.ofNat_toNat, b.toNat_lt⟩)

theorem exact_flag : flag.Exact fun _ => True := by
  intro bytes v rest
  simp only [flag, and_true]
  constructor
  · intro h
    split at h <;> cases h <;> rfl
  · rintro rfl
    cases v <;> rfl

/-- A byte string is short enough for its length to be written in eight bytes. -/
def Fits (bytes : Bytes) : Prop := bytes.length < Nat.pow 256 8

instance (bytes : Bytes) : Decidable (Fits bytes) := inferInstanceAs (Decidable (_ < _))

theorem exact_sized : sized.Exact Fits := by
  intro bytes v rest
  simp only [sized, bind_eq_ok, Prod.exists]
  constructor
  · rintro ⟨n, rest', hd, hv⟩
    obtain ⟨rfl, hn⟩ := (exact_natural 8 _ _ _).1 hd
    obtain ⟨rfl, rfl⟩ := takeBytes_eq_ok.1 hv
    exact ⟨(List.append_assoc ..).symm, hn⟩
  · rintro ⟨rfl, hv⟩
    rw [List.append_assoc]
    exact ⟨v.length, _, (exact_natural 8).decode_encode hv _, takeBytes_append rfl⟩

theorem exact_sized64 : sized64.Exact fun _ => True := by
  intro bytes v rest
  simp only [sized64, bind_eq_ok, Prod.exists]
  constructor
  · rintro ⟨content, rest', hc, hv⟩
    obtain ⟨rfl, _⟩ := (exact_sized _ _ _).1 hc
    split at hv
    · cases hv
      exact ⟨rfl, trivial⟩
    · cases hv
  · rintro ⟨rfl, _⟩
    have hv : Fits v.bytes := by
      rw [Fits, v.length_eq]
      decide
    refine ⟨v.bytes, rest, exact_sized.decode_encode hv rest, ?_⟩
    rw [dif_pos v.length_eq]
    rfl

theorem Exact.option {l : Layout α} (h : l.Exact fits) :
    (option l).Exact fun v => ∀ a ∈ v, fits a := by
  intro bytes v rest
  simp only [Layout.option]
  constructor
  · intro hd
    split at hd
    · cases hd
    · cases hd
      exact ⟨rfl, fun a ha => by cases ha⟩
    · obtain ⟨⟨a, rest'⟩, hda, he⟩ := bind_eq_ok.1 hd
      obtain ⟨rfl, ha⟩ := (h _ _ _).1 hda
      cases he
      refine ⟨rfl, fun b hb => ?_⟩
      cases hb
      exact ha
    · cases hd
  · rintro ⟨rfl, hv⟩
    cases v with
    | none => rfl
    | some a =>
      have hd := h.decode_encode (hv a rfl) rest
      exact bind_eq_ok.2 ⟨_, hd, rfl⟩

end Layout

/-- The byte strings in a body are short enough for their lengths to be written. -/
def TxBody.Fits : TxBody → Prop
  | .stake _ _ commitment => Layout.Fits commitment
  | .update _ _ newData _ => Layout.Fits newData
  | _ => True

/-- The byte strings in a transaction are short enough for their lengths to be written. -/
def Transaction.Fits (tx : Transaction) : Prop := Layout.Fits tx.data ∧ tx.body.Fits

namespace Layout

theorem exact_address : address.Exact fun _ => True :=
  exact_sized64.map (fun _ _ => ⟨rfl, trivial⟩) (fun _ _ => ⟨rfl, trivial⟩)

theorem exact_signature : signature.Exact fun _ => True :=
  exact_sized64.map (fun _ _ => ⟨rfl, trivial⟩) (fun _ _ => ⟨rfl, trivial⟩)

theorem exact_checkString : checkString.Exact fun _ => True :=
  (exact_octets 32).map (fun _ _ => ⟨rfl, trivial⟩) (fun _ _ => ⟨rfl, trivial⟩)

theorem exact_params : params.Exact fun _ => True :=
  ((exact_octets 32).pair ((exact_octets 32).pair ((exact_octets 32).pair
    ((exact_octets 32).pair (exact_octets 32).option)))).map
    (fun _ _ => ⟨rfl, trivial⟩)
    (fun _ _ => ⟨rfl, trivial, trivial, trivial, trivial, fun _ _ => trivial⟩)

theorem exact_accountCreation : accountCreation.Exact fun _ => True ∧ True ∧ True :=
  (exact_octets 32).pair (exact_address.pair exact_params)

theorem exact_fundsTransfer : fundsTransfer.Exact fun _ => True ∧ True ∧ True ∧ True :=
  exact_long.pair (exact_word.pair ((exact_octets 32).pair (exact_octets 32)))

theorem exact_config : config.Exact fun _ => True ∧ True ∧ True :=
  exact_byte.pair (exact_long.pair exact_word)

theorem exact_stake : stake.Exact fun v => True ∧ True ∧ Fits v.2.2 :=
  exact_flag.pair ((exact_octets 32).pair exact_sized)

theorem exact_update : update.Exact fun v => True ∧ True ∧ Fits v.2.2.1 ∧ True :=
  (exact_octets 32).pair (exact_checkString.pair (exact_sized.pair (exact_octets 32)))

/-- Fields after the number of a variant are read back, the number first. -/
theorem Exact.decode_variant {l : Layout α} (h : l.Exact fits) (hv : fits v)
    (hn : n < Nat.pow 256 4) (rest : Bytes) :
    (natural 4).decode ((natural 4).encode n ++ l.encode v ++ rest) =
        .ok (n, l.encode v ++ rest) ∧
      l.decode (l.encode v ++ rest) = .ok (v, rest) := by
  rw [List.append_assoc]
  exact ⟨(exact_natural 4).decode_encode hn _, h.decode_encode hv rest⟩

theorem decode_body {v : TxBody} (hv : v.Fits) (rest : Bytes) :
    body.decode (body.encode v ++ rest) = .ok (v, rest) := by
  simp only [body, bind_eq_ok, Prod.exists]
  cases v with
  | accountCreation issuer newAddress params =>
    obtain ⟨hn, hf⟩ := exact_accountCreation.decode_variant
      (v := (issuer, newAddress, params)) ⟨trivial, trivial, trivial⟩ (n := 0) (by decide) rest
    exact ⟨_, _, hn, bind_eq_ok.2 ⟨_, hf, rfl⟩⟩
  | fundsTransfer amount txCount source target =>
    obtain ⟨hn, hf⟩ := exact_fundsTransfer.decode_variant
      (v := (amount, txCount, source, target)) ⟨trivial, trivial, trivial, trivial⟩
      (n := 1) (by decide) rest
    exact ⟨_, _, hn, bind_eq_ok.2 ⟨_, hf, rfl⟩⟩
  | config option payload txCount =>
    obtain ⟨hn, hf⟩ := exact_config.decode_variant
      (v := (option, payload, txCount)) ⟨trivial, trivial, trivial⟩ (n := 2) (by decide) rest
    exact ⟨_, _, hn, bind_eq_ok.2 ⟨_, hf, rfl⟩⟩
  | stake isStaking account commitment =>
    obtain ⟨hn, hf⟩ := exact_stake.decode_variant
      (v := (isStaking, account, commitment)) ⟨trivial, trivial, hv⟩ (n := 3) (by decide) rest
    exact ⟨_, _, hn, bind_eq_ok.2 ⟨_, hf, rfl⟩⟩
  | update target targetCheckString newData issuer =>
    obtain ⟨hn, hf⟩ := exact_update.decode_variant
      (v := (target, targetCheckString, newData, issuer)) ⟨trivial, trivial, hv, trivial⟩
      (n := 4) (by decide) rest
    exact ⟨_, _, hn, bind_eq_ok.2 ⟨_, hf, rfl⟩⟩

theorem exact_body : body.Exact TxBody.Fits := by
  intro bytes v rest
  constructor
  · intro h
    simp only [body, bind_eq_ok, Prod.exists] at h
    obtain ⟨n, fields, hn, hf⟩ := h
    obtain ⟨rfl, _⟩ := (exact_natural 4 _ _ _).1 hn
    split at hf
    · obtain ⟨_, hd, he⟩ := bind_eq_ok.1 hf
      obtain ⟨rfl, _⟩ := (exact_accountCreation _ _ _).1 hd
      cases he
      exact ⟨(List.append_assoc ..).symm, trivial⟩
    · obtain ⟨_, hd, he⟩ := bind_eq_ok.1 hf
      obtain ⟨rfl, _⟩ := (exact_fundsTransfer _ _ _).1 hd
      cases he
      exact ⟨(List.append_assoc ..).symm, trivial⟩
    · obtain ⟨_, hd, he⟩ := bind_eq_ok.1 hf
      obtain ⟨rfl, _⟩ := (exact_config _ _ _).1 hd
      cases he
      exact ⟨(List.append_assoc ..).symm, trivial⟩
    · obtain ⟨_, hd, he⟩ := bind_eq_ok.1 hf
      obtain ⟨rfl, hv⟩ := (exact_stake _ _ _).1 hd
      cases he
      exact ⟨(List.append_assoc ..).symm, hv.2.2⟩
    · obtain ⟨_, hd, he⟩ := bind_eq_ok.1 hf
      obtain ⟨rfl, hv⟩ := (exact_update _ _ _).1 hd
      cases he
      exact ⟨(List.append_assoc ..).symm, hv.2.2.1⟩
    · cases hf
  · rintro ⟨rfl, hv⟩
    exact decode_body hv rest

theorem exact_transaction : transaction.Exact Transaction.Fits :=
  (exact_byte.pair (exact_long.pair (exact_sized.pair (exact_checkString.option.pair
    (exact_signature.pair (exact_signature.pair exact_body)))))).map
    (fun _ h => ⟨rfl, h.2.2.1, h.2.2.2.2.2.2⟩)
    (fun _ h => ⟨rfl, trivial, trivial, h.1, fun _ _ => trivial, trivial, trivial, h.2⟩)

end Layout

end RedactableLedger
