import RedactableLedger.Transaction.Identity

namespace RedactableLedger

variable {s t x y : Bytes} {n : Nat}

theorem Octets.append_eq_append_iff {a b : Octets n} :
    a.bytes ++ s = b.bytes ++ t ↔ a = b ∧ s = t := by
  have hlength : a.bytes.length = b.bytes.length := by
    rw [a.length_eq, b.length_eq]
  rw [List.append_eq_append_iff_of_size_eq_left hlength]
  constructor
  · intro ⟨hbytes, hrest⟩
    exact ⟨Octets.ext hbytes, hrest⟩
  · intro ⟨hab, hrest⟩
    exact ⟨congrArg Octets.bytes hab, hrest⟩

namespace Bytes

theorem ofNatLE_injective {v w : Nat} (hv : v < Nat.pow 256 n) (hw : w < Nat.pow 256 n)
    (h : ofNatLE n v = ofNatLE n w) : v = w := by
  have hvalue : (ofNatLE n v).toNatLE = (ofNatLE n w).toNatLE := congrArg toNatLE h
  rw [toNatLE_ofNatLE, toNatLE_ofNatLE] at hvalue
  rwa [Nat.mod_eq_of_lt hv, Nat.mod_eq_of_lt hw] at hvalue

theorem ofNatLE_append_eq_append_iff {v w : Nat} (hv : v < Nat.pow 256 n)
    (hw : w < Nat.pow 256 n) :
    ofNatLE n v ++ s = ofNatLE n w ++ t ↔ v = w ∧ s = t := by
  have hlength : (ofNatLE n v).length = (ofNatLE n w).length := by
    rw [length_ofNatLE, length_ofNatLE]
  rw [List.append_eq_append_iff_of_size_eq_left hlength]
  constructor
  · intro ⟨hbytes, hrest⟩
    exact ⟨ofNatLE_injective hv hw hbytes, hrest⟩
  · intro ⟨hvw, hrest⟩
    exact ⟨congrArg (ofNatLE n) hvw, hrest⟩

theorem long_append_eq_append_iff {v w : UInt64} :
    ofNatLE 8 v.toNat ++ s = ofNatLE 8 w.toNat ++ t ↔ v = w ∧ s = t := by
  rw [ofNatLE_append_eq_append_iff v.toNat_lt w.toNat_lt, UInt64.toNat_inj]

theorem word_append_eq_append_iff {v w : UInt32} :
    ofNatLE 4 v.toNat ++ s = ofNatLE 4 w.toNat ++ t ↔ v = w ∧ s = t := by
  rw [ofNatLE_append_eq_append_iff v.toNat_lt w.toNat_lt, UInt32.toNat_inj]

/-- A byte string is short enough for its length to be written in four bytes. -/
def Short (bytes : Bytes) : Prop := bytes.length < Nat.pow 256 4

instance (bytes : Bytes) : Decidable bytes.Short := inferInstanceAs (Decidable (_ < _))

end Bytes

/-- Where a short byte string ends is told by its length, whatever follows it. -/
theorem withLength_append_eq_append_iff (hx : x.Short) (hy : y.Short) :
    withLength x ++ s = withLength y ++ t ↔ x = y ∧ s = t := by
  rw [withLength, withLength, List.append_assoc, List.append_assoc,
    Bytes.ofNatLE_append_eq_append_iff hx hy]
  constructor
  · intro ⟨hlength, h⟩
    exact List.append_inj h hlength
  · rintro ⟨rfl, rfl⟩
    exact ⟨rfl, rfl⟩

namespace ChameleonParams

variable {P Q : ChameleonParams}

theorem sanitized_eq_iff :
    P.sanitized = Q.sanitized ↔ P.g = Q.g ∧ P.p = Q.p ∧ P.q = Q.q ∧ P.hk = Q.hk := by
  constructor
  · intro h
    injection h with hg hp hq hhk
    exact ⟨hg, hp, hq, hhk⟩
  · intro ⟨hg, hp, hq, hhk⟩
    rw [sanitized, sanitized, hg, hp, hq, hhk]

theorem publicBytes_append_eq_append_iff :
    P.publicBytes ++ s = Q.publicBytes ++ t ↔ P.sanitized = Q.sanitized ∧ s = t := by
  rw [sanitized_eq_iff]
  simp only [publicBytes, List.append_assoc, Octets.append_eq_append_iff, and_assoc]

end ChameleonParams

namespace TxBody

def Short : TxBody → Prop
  | stake _ _ commitment => commitment.Short
  | update _ _ newData _ => newData.Short
  | _ => True

/-- The body without the trapdoor that embedded parameters may have. -/
def sanitized : TxBody → TxBody
  | accountCreation issuer newAddress params =>
    accountCreation issuer newAddress params.sanitized
  | body => body

/-- Of two bodies of one kind, whatever follows them, the bytes are the same just if the bodies
are. -/
theorem content_append_eq_append_iff {a b : TxBody} (hkind : a.kind = b.kind) (ha : a.Short)
    (hb : b.Short) : a.content ++ s = b.content ++ t ↔ a.sanitized = b.sanitized ∧ s = t := by
  cases a with
  | accountCreation issuer newAddress params =>
    cases b with
    | accountCreation issuer' newAddress' params' =>
      simp only [content, sanitized, List.append_assoc, Octets.append_eq_append_iff,
        ChameleonParams.publicBytes_append_eq_append_iff, accountCreation.injEq, and_assoc]
      have haddress : newAddress.octets = newAddress'.octets ↔ newAddress = newAddress' := by
        rw [Address.mk.injEq]
      rw [haddress]
    | _ => cases hkind
  | fundsTransfer amount txCount source target =>
    cases b with
    | fundsTransfer amount' txCount' source' target' =>
      simp only [content, sanitized, List.append_assoc, Octets.append_eq_append_iff,
        Bytes.long_append_eq_append_iff, Bytes.word_append_eq_append_iff, fundsTransfer.injEq,
        and_assoc]
    | _ => cases hkind
  | config option payload txCount =>
    cases b with
    | config option' payload' txCount' =>
      simp only [content, sanitized, List.cons_append, List.append_assoc, List.cons.injEq,
        Bytes.long_append_eq_append_iff, Bytes.word_append_eq_append_iff, config.injEq,
        and_assoc]
    | _ => cases hkind
  | stake isStaking account commitment =>
    cases b with
    | stake isStaking' account' commitment' =>
      have hflag : ∀ p q : Bool, (if p then (1 : UInt8) else 0) = (if q then 1 else 0) ↔
          p = q := by
        decide
      simp only [content, sanitized, List.cons_append, List.append_assoc,
        List.cons.injEq, hflag, Octets.append_eq_append_iff,
        withLength_append_eq_append_iff ha hb, stake.injEq, and_assoc]
    | _ => cases hkind
  | update target targetCheckString newData issuer =>
    cases b with
    | update target' targetCheckString' newData' issuer' =>
      have hcs : targetCheckString.octets = targetCheckString'.octets ↔
          targetCheckString = targetCheckString' := by
        rw [CheckString.mk.injEq]
      simp only [content, sanitized, List.append_assoc, Octets.append_eq_append_iff, hcs,
        withLength_append_eq_append_iff ha hb, update.injEq, and_assoc]
    | _ => cases hkind

end TxBody

namespace Transaction

structure Short (tx : Transaction) : Prop where
  data : tx.data.Short
  body : tx.body.Short

/-- Two transactions have the same content just if they agree on all but the check string, the
signatures and the trapdoor of embedded parameters. -/
theorem content_eq_iff {a b : Transaction} (ha : a.Short) (hb : b.Short) :
    a.content = b.content ↔
      a.kind = b.kind ∧ a.header = b.header ∧ a.fee = b.fee ∧ a.data = b.data ∧
        a.body.sanitized = b.body.sanitized := by
  have hparts (hkind : a.kind = b.kind) :
      Bytes.ofNatLE 8 a.fee.toNat ++ a.body.content ++ withLength a.data =
          Bytes.ofNatLE 8 b.fee.toNat ++ b.body.content ++ withLength b.data ↔
        a.fee = b.fee ∧ a.body.sanitized = b.body.sanitized ∧ a.data = b.data := by
    have hdata := withLength_append_eq_append_iff ha.data hb.data (s := []) (t := [])
    rw [List.append_nil, List.append_nil, and_iff_left rfl] at hdata
    rw [List.append_assoc, List.append_assoc, Bytes.long_append_eq_append_iff,
      TxBody.content_append_eq_append_iff hkind ha.body hb.body, hdata]
  simp only [content, List.cons_append, List.cons.injEq]
  constructor
  · intro ⟨hcode, hheader, hrest⟩
    have hkind : a.kind = b.kind := TxKind.code_injective hcode
    obtain ⟨hfee, hbody, hdata⟩ := (hparts hkind).1 hrest
    exact ⟨hkind, hheader, hfee, hdata, hbody⟩
  · intro ⟨hkind, hheader, hfee, hdata, hbody⟩
    exact ⟨congrArg TxKind.code hkind, hheader, (hparts hkind).2 ⟨hfee, hbody, hdata⟩⟩

def updateOf (newData data : Bytes) : Transaction :=
  .unsigned 0 1 data (some ⟨.zero 32⟩) (.update (.zero 32) ⟨.zero 32⟩ newData (.zero 32))

/-- A byte cannot be moved from the announced data to the data. -/
theorem content_ne_of_shifted :
    (updateOf [1, 2] [3]).Short ∧ (updateOf [1] [2, 3]).Short ∧
      (updateOf [1, 2] [3]).content ≠ (updateOf [1] [2, 3]).content := by
  have ha : (updateOf [1, 2] [3]).Short := ⟨by decide, show Bytes.Short [1, 2] by decide⟩
  have hb : (updateOf [1] [2, 3]).Short := ⟨by decide, show Bytes.Short [1] by decide⟩
  refine ⟨ha, hb, fun h => ?_⟩
  have hdata := ((content_eq_iff ha hb).1 h).2.2.2.1
  exact absurd hdata (by decide)

end Transaction

end RedactableLedger
