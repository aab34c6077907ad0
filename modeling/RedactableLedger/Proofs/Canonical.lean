import RedactableLedger.Account
import RedactableLedger.Block
import RedactableLedger.Proofs.Layout

namespace RedactableLedger

namespace Layout

variable {l : Layout α} {fits : α → Prop}

/-- The fitting values of a layout are read from their written forms and from nothing else. -/
structure Canonical (l : Layout α) (fits : α → Prop) : Prop where
  read_encode : ∀ v rest, fits v → l.read (l.encode v ++ rest) = .ok v
  /-- The front of what is accepted is the written form of what was read. -/
  encode_prefix : ∀ bytes v, l.read bytes = .ok v → l.encode v <+: bytes ∧ fits v
  truncated : ∀ v front, fits v → front <+: l.encode v → front ≠ l.encode v →
    ∃ e, l.read front = .error e
  consumed : ∀ bytes bytes' v rest rest', l.decode bytes = .ok (v, rest) →
    l.decode bytes' = .ok (v, rest') → ∃ used, bytes = used ++ rest ∧ bytes' = used ++ rest'
  encode_injective : ∀ v w, fits v → fits w → l.encode v = l.encode w → v = w

theorem Exact.encode_injective (h : l.Exact fits) (hv : fits v) (hw : fits w)
    (he : l.encode v = l.encode w) : v = w := by
  have hread := h.read_encode hv
  rw [he, h.read_encode hw] at hread
  cases hread
  rfl

/-- Written forms are free of each other: none goes on where another ends. -/
theorem Exact.eq_of_prefix (h : l.Exact fits) (hv : fits v) (hw : fits w)
    (hp : l.encode w <+: l.encode v) : l.encode w = l.encode v := by
  have hread : l.read (l.encode v) = .ok w := h.read_eq_ok.2 ⟨hp, hw⟩
  rw [h.read_encode hv] at hread
  cases hread
  rfl

theorem Exact.canonical (h : l.Exact fits) : l.Canonical fits where
  read_encode v rest hv := h.read_eq_ok.2 ⟨List.prefix_append _ rest, hv⟩
  encode_prefix bytes v hr := h.read_eq_ok.1 hr
  truncated v front hv hp hne := by
    cases hr : l.read front with
    | error e => exact ⟨e, rfl⟩
    | ok w =>
      obtain ⟨hw, hfits⟩ := h.read_eq_ok.1 hr
      have he := h.eq_of_prefix hv hfits (hw.trans hp)
      exact absurd (hp.eq_of_length_le (he ▸ hw.length_le)) hne
  consumed bytes bytes' v rest rest' hd hd' :=
    ⟨l.encode v, ((h _ _ _).1 hd).1, ((h _ _ _).1 hd').1⟩
  encode_injective v w hv hw he := h.encode_injective hv hw he

theorem exact_signed : signed.Exact fun _ => True :=
  exact_long.map (fun v _ => ⟨UInt64.toUInt64_toInt64 v, trivial⟩)
    (fun v _ => ⟨Int64.toInt64_toUInt64 v, trivial⟩)

theorem exact_account : account.Exact fun _ => True :=
  (exact_address.pair (exact_long.pair (exact_word.pair (exact_flag.pair
    (exact_flag.pair exact_flag))))).map
    (fun _ _ => ⟨rfl, trivial⟩)
    (fun _ _ => ⟨rfl, trivial, trivial, trivial, trivial, trivial, trivial⟩)

theorem exact_account? : (option account).Exact fun _ => True := by
  intro bytes v rest
  rw [exact_account.option bytes v rest]
  simp only [implies_true]

theorem exact_accountRequest : accountRequest.Exact fun _ => True :=
  (exact_long.pair (exact_octets 32)).map (fun _ _ => ⟨rfl, trivial⟩)
    (fun _ _ => ⟨rfl, trivial, trivial⟩)

theorem exact_blockHeader : blockHeader.Exact fun _ => True :=
  (exact_word.pair ((exact_octets 32).pair ((exact_octets 32).pair (exact_signed.pair
    ((exact_octets 32).pair exact_word))))).map
    (fun _ _ => ⟨rfl, trivial⟩)
    (fun _ _ => ⟨rfl, trivial, trivial, trivial, trivial, trivial, trivial⟩)

/-- Every record that is stored or sent has one written form. Only transactions hold byte
strings of any length, and only those whose lengths can be written fit. -/
theorem records_canonical :
    transaction.Canonical Transaction.Fits ∧
    (option account).Canonical (fun _ => True) ∧
    accountRequest.Canonical (fun _ => True) ∧
    blockHeader.Canonical (fun _ => True) ∧
    params.Canonical (fun _ => True) ∧
    address.Canonical (fun _ => True) :=
  ⟨exact_transaction.canonical, exact_account?.canonical, exact_accountRequest.canonical,
    exact_blockHeader.canonical, exact_params.canonical, exact_address.canonical⟩

/-- An update with a byte string in the middle of its body and another before its check
string. -/
def smallUpdate : Transaction where
  header := 1
  fee := 9
  data := [5, 0]
  checkString := some ⟨.zero 32⟩
  sig1 := default
  sig2 := default
  body := .update (.zero 32) ⟨.zero 32⟩ [7] (.zero 32)

theorem smallUpdate_canonical :
    smallUpdate.Fits ∧
    transaction.read (transaction.encode smallUpdate ++ [9]) = .ok smallUpdate ∧
    ∃ e, transaction.read (transaction.encode smallUpdate).dropLast = .error e := by
  have hfits : smallUpdate.Fits := ⟨by decide, show Fits [7] by decide⟩
  have hpos : 0 < (transaction.encode smallUpdate).length := List.length_pos_iff.2 (by decide)
  have hcut : (transaction.encode smallUpdate).dropLast ≠ transaction.encode smallUpdate := by
    intro h
    have hlength := congrArg List.length h
    rw [List.length_dropLast] at hlength
    omega
  obtain ⟨hcanonical, _⟩ := records_canonical
  exact ⟨hfits, hcanonical.read_encode _ _ hfits,
    hcanonical.truncated _ _ hfits (List.dropLast_prefix _) hcut⟩

end Layout

end RedactableLedger
