import RedactableLedger.Proofs.Store

namespace RedactableLedger

namespace Bn254

theorem decodeScalar_encodeScalar (k : Scalar) : decodeScalar (encodeScalar k) = .ok k := by
  have hlt : k.val < Nat.pow 256 32 := Nat.lt_trans k.isLt (by decide)
  have hv : (Bytes.ofNatLE 32 k.val).toNatLE = k.val := by
    rw [Bytes.toNatLE_ofNatLE, Nat.mod_eq_of_lt hlt]
  simp only [decodeScalar, encodeScalar, Octets.toNatLE, Octets.ofNatLE, hv,
    Field.ofNat?, k.isLt, dite_true]

theorem encodeScalar_of_decodeScalar {bytes : Octets 32} {k : Scalar}
    (h : decodeScalar bytes = .ok k) :
    encodeScalar k = bytes := by
  simp only [decodeScalar, Field.ofNat?] at h
  split at h
  · rename_i hk
    split at hk
    · cases hk
      cases h
      obtain ⟨octets, hl⟩ := bytes
      have hw := Bytes.ofNatLE_toNatLE octets
      rw [hl] at hw
      exact Octets.ext hw
    · cases hk
  · cases h

end Bn254

namespace ChameleonParams

variable {P Q params : ChameleonParams} {p q d : Decoded} {hash : Digest}

theorem decode_eq_ok :
    params.decode = .ok d ↔
      params.p = fieldModulus ∧ params.q = groupOrder ∧ decodePoint params.g "g" = .ok d.g ∧
        d.g ≠ .infinity ∧ decodePoint params.hk "hk" = .ok d.hk ∧
        decodeTrapdoor d.g d.hk params.tk = .ok d.tk := by
  rw [decode]
  constructor
  · intro h
    split at h
    · cases h
    · rename_i hp
      split at h
      · cases h
      · rename_i hq
        obtain ⟨g, hg, h⟩ := bind_eq_ok.1 h
        split at h
        · cases h
        · rename_i hi
          obtain ⟨hk, hhk, h⟩ := bind_eq_ok.1 h
          obtain ⟨tk, htk, h⟩ := bind_eq_ok.1 h
          cases h
          exact ⟨Decidable.not_not.1 hp, Decidable.not_not.1 hq, hg, hi, hhk, htk⟩
  · rintro ⟨hp, hq, hg, hi, hhk, htk⟩
    rw [if_neg (Decidable.not_not.2 hp), if_neg (Decidable.not_not.2 hq), hg]
    change (if d.g = .infinity then _ else _) = _
    rw [if_neg hi]
    exact bind_eq_ok.2 ⟨d.hk, hhk, bind_eq_ok.2 ⟨d.tk, htk, rfl⟩⟩

/-- A trapdoor that decodes belongs to the hash key and is written in its one form. -/
theorem decodeTrapdoor_eq_ok {g hk : Bn254.GroupPoint} {field : Option (Octets 32)}
    {tk : Option Bn254.Scalar} :
    decodeTrapdoor g hk field = .ok tk ↔
      field = none ∧ tk = none ∨
        ∃ k, field = some (Bn254.encodeScalar k) ∧ Bn254.smul k g = hk ∧ tk = some k := by
  constructor
  · intro h
    cases field with
    | none =>
      cases h
      exact .inl ⟨rfl, rfl⟩
    | some bytes =>
      obtain ⟨k, hk, h⟩ := bind_eq_ok.1 h
      split at h
      · rename_i hmul
        cases h
        exact .inr
          ⟨k, by rw [Bn254.encodeScalar_of_decodeScalar (mapError_eq_ok.1 hk)], hmul, rfl⟩
      · cases h
  · rintro (⟨rfl, rfl⟩ | ⟨k, rfl, hmul, rfl⟩)
    · rfl
    · exact bind_eq_ok.2 ⟨k, mapError_eq_ok.2 (Bn254.decodeScalar_encodeScalar k), if_pos hmul⟩

theorem trapdoor_of_decode (h : params.decode = .ok d) :
    params.tk = d.tk.map Bn254.encodeScalar := by
  obtain ⟨_, _, _, _, _, htrapdoor⟩ := decode_eq_ok.1 h
  obtain ⟨hfield, htk⟩ | ⟨k, hfield, _, htk⟩ := decodeTrapdoor_eq_ok.1 htrapdoor
  · rw [hfield, htk, Option.map_none]
  · rw [hfield, htk, Option.map_some]

theorem hasTrapdoor_of_decode (h : params.decode = .ok d) :
    params.hasTrapdoor = d.tk.isSome := by
  rw [hasTrapdoor, trapdoor_of_decode h, Option.isSome_map]

theorem decode_sanitized (h : params.decode = .ok d) :
    params.sanitized.decode = .ok ⟨d.g, d.hk, none⟩ := by
  obtain ⟨hp, hq, hg, hi, hhk, _⟩ := decode_eq_ok.1 h
  exact decode_eq_ok.2 ⟨hp, hq, hg, hi, hhk, rfl⟩

/-- Parameters with the same public fields stand for the same generator and hash key. -/
theorem decode_public (hs : P.sanitized = Q.sanitized) (hP : P.decode = .ok p)
    (hQ : Q.decode = .ok q) : p.g = q.g ∧ p.hk = q.hk := by
  have hp := decode_sanitized hP
  rw [hs, decode_sanitized hQ] at hp
  injection hp with he
  injection he with hg hhk
  exact ⟨hg.symm, hhk.symm⟩

theorem hash_eq_ok : params.hash cs content = .ok hash ↔
      ∃ d r, params.decode = .ok d ∧ cs.decode = .ok r ∧
        hash = sha3 (Bn254.encodePoint (d.commit (messageScalar content) r)).bytes := by
  constructor
  · intro h
    obtain ⟨d, hd, h⟩ := bind_eq_ok.1 h
    obtain ⟨r, hr, h⟩ := bind_eq_ok.1 h
    cases h
    exact ⟨d, r, hd, hr, rfl⟩
  · rintro ⟨d, r, hd, hr, rfl⟩
    exact bind_eq_ok.2 ⟨d, hd, bind_eq_ok.2 ⟨r, hr, rfl⟩⟩

theorem hash_public (hs : P.sanitized = Q.sanitized)
    (hP : P.decode = .ok p) (h : Q.hash cs content = .ok hash) :
    P.hash cs content = .ok hash := by
  obtain ⟨q, r, hQ, hr, he⟩ := hash_eq_ok.1 h
  obtain ⟨hg, hhk⟩ := decode_public hs hP hQ
  refine hash_eq_ok.2 ⟨p, r, hP, hr, ?_⟩
  rw [he, Decoded.commit, Decoded.commit, hg, hhk]

theorem collide_eq_ok {cs cs' : CheckString} {old new : Digest} :
    params.collide cs old new = .ok cs' ↔
      ∃ d tk r, params.decode = .ok d ∧ d.tk = some tk ∧ tk ≠ 0 ∧ cs.decode = .ok r ∧
        cs' = .ofScalar (collisionScalar tk r (messageScalar old) (messageScalar new)) := by
  constructor
  · intro h
    obtain ⟨d, hd, h⟩ := bind_eq_ok.1 h
    rw [mapError_eq_ok] at hd
    split at h
    · cases h
    · rename_i tk htk
      split at h
      · cases h
      · rename_i hne
        obtain ⟨r, hr, h⟩ := bind_eq_ok.1 h
        rw [mapError_eq_ok] at hr
        cases h
        exact ⟨d, tk, r, hd, htk, hne, hr, rfl⟩
  · rintro ⟨d, tk, r, hd, htk, hne, hr, rfl⟩
    refine bind_eq_ok.2 ⟨d, mapError_eq_ok.2 hd, ?_⟩
    rw [htk]
    change (if tk = 0 then _ else _) = _
    rw [if_neg hne]
    exact bind_eq_ok.2 ⟨r, mapError_eq_ok.2 hr, rfl⟩

end ChameleonParams

namespace CheckString

theorem decode_ofScalar (r : Bn254.Scalar) : (ofScalar r).decode = .ok r := by
  rw [decode, ofScalar, ChameleonParams.decodeScalar, Bn254.decodeScalar_encodeScalar]
  rfl

/-- A check string that can be read is the one that its scalar is written as. -/
theorem ofScalar_of_decode {cs : CheckString} {r : Bn254.Scalar} (h : cs.decode = .ok r) :
    ofScalar r = cs := by
  rw [ofScalar, Bn254.encodeScalar_of_decodeScalar (mapError_eq_ok.1 h)]

end CheckString

namespace Transaction

variable {tx signed redacted a b c : Transaction} {params : ChameleonParams} {hash : TxHash}
  {content : Bytes}

/-- Two records agree on all that neither signing nor redacting changes. -/
structure SameTerms (a b : Transaction) : Prop where
  header : a.header = b.header
  fee : a.fee = b.fee
  body : a.body = b.body

theorem SameTerms.refl (a : Transaction) : SameTerms a a := ⟨rfl, rfl, rfl⟩

theorem SameTerms.trans (hab : SameTerms a b) (hbc : SameTerms b c) : SameTerms a c :=
  ⟨hab.header.trans hbc.header, hab.fee.trans hbc.fee, hab.body.trans hbc.body⟩

theorem SameTerms.kind (h : SameTerms a b) : a.kind = b.kind := congrArg TxBody.kind h.body

/-- The content does not depend on the check string or on the signatures. -/
theorem SameTerms.contentHash (h : SameTerms a b) (hd : a.data = b.data) :
    a.contentHash = b.contentHash := by
  rw [Transaction.contentHash, Transaction.contentHash, Transaction.content,
    Transaction.content, h.kind, h.header, h.fee, h.body, hd]

theorem SameTerms.id (h : SameTerms a b) (hd : a.data = b.data)
    (hc : a.checkString = b.checkString) (params : Option ChameleonParams) :
    a.id params = b.id params := by
  unfold Transaction.id
  rw [hc, h.contentHash hd]

theorem SameTerms.fits (h : SameTerms a b) (hb : b.Fits) (hd : Layout.Fits a.data) :
    a.Fits := by
  refine ⟨hd, ?_⟩
  rw [h.body]
  exact hb.2

theorem id_eq_ok (hc : tx.checkString = some cs) :
    tx.id (some params) = .ok hash ↔ params.hash cs tx.contentHash = .ok hash := by
  unfold Transaction.id
  rw [hc]
  exact mapError_eq_ok

theorem id_of_decode {d : ChameleonParams.Decoded} {r : Bn254.Scalar} (tx : Transaction)
    (hc : tx.checkString = some cs) (hd : params.decode = .ok d) (hr : cs.decode = .ok r) :
    ∃ hash, tx.id (some params) = .ok hash :=
  ⟨_, (id_eq_ok hc).2 (ChameleonParams.hash_eq_ok.2 ⟨d, r, hd, hr, rfl⟩)⟩

/-- What a successful redaction says of the record before it and of the redacted one. -/
structure Redacts (tx : Transaction) (hash : TxHash) (content : Bytes)
    (params : ChameleonParams) (cs : CheckString) (redacted : Transaction) : Prop where
  redactable : tx.kind.isRedactable = true
  result : redacted = { tx with data := content, checkString := some cs }
  collides : ∃ old, tx.checkString = some old ∧
    params.collide old tx.contentHash redacted.contentHash = .ok cs
  id_before : tx.id (some params) = .ok hash
  id_after : redacted.id (some params) = .ok hash

theorem redacts_of_redact (h : tx.redact hash content params = .ok (cs, redacted)) :
    tx.Redacts hash content params cs redacted := by
  unfold redact at h
  split at h
  · rename_i old hk hc
    obtain ⟨before, hbefore, h⟩ := bind_eq_ok.1 h
    dsimp only at h
    split at h
    · cases h
    · rename_i hguard
      split at h
      · cases h
      · obtain ⟨cs', hcs, h⟩ := bind_eq_ok.1 h
        obtain ⟨after, hafter, h⟩ := bind_eq_ok.1 h
        split at h
        · cases h
        · rename_i hsame
          cases h
          rw [Decidable.not_not.1 hguard] at hbefore
          rw [Decidable.not_not.1 hsame] at hafter
          exact ⟨hk, rfl, ⟨old, hc, hcs⟩, hbefore, hafter⟩
  · cases h

theorem redact_of_redacts (h : tx.Redacts hash content params cs redacted) :
    tx.redact hash content params = .ok (cs, redacted) := by
  obtain ⟨hk, hresult, ⟨old, hc, hcollide⟩, hbefore, hafter⟩ := h
  have htrapdoor : params.hasTrapdoor = true := by
    obtain ⟨d, tk, _, hd, htk, _⟩ := ChameleonParams.collide_eq_ok.1 hcollide
    rw [ChameleonParams.hasTrapdoor_of_decode hd, htk, Option.isSome_some]
  subst hresult
  unfold redact
  rw [hk, hc]
  refine bind_eq_ok.2 ⟨hash, hbefore, ?_⟩
  rw [if_neg (Decidable.not_not.2 rfl), htrapdoor]
  refine bind_eq_ok.2 ⟨cs, hcollide, bind_eq_ok.2 ⟨hash, hafter, ?_⟩⟩
  rw [if_neg (Decidable.not_not.2 rfl)]
  rfl

/-- Redacting to the data that a record has already leaves the record as it is. -/
theorem redacts_same {d : ChameleonParams.Decoded} {tk r : Bn254.Scalar}
    (hk : tx.kind.isRedactable = true) (hc : tx.checkString = some cs)
    (hid : tx.id (some params) = .ok hash) (hd : params.decode = .ok d) (htk : d.tk = some tk)
    (hne : tk ≠ 0) (hr : cs.decode = .ok r) : tx.Redacts hash tx.data params cs tx := by
  have hsame : tx = { tx with data := tx.data, checkString := some cs } := by
    rw [← hc]
  refine ⟨hk, hsame, ⟨cs, hc, ?_⟩, hid, hid⟩
  refine ChameleonParams.collide_eq_ok.2 ⟨d, tk, r, hd, htk, hne, hr, ?_⟩
  rw [ChameleonParams.collisionScalar, Fin.sub_self, Fin.zero_mul, Fin.add_zero,
    CheckString.ofScalar_of_decode hr]

theorem Redacts.terms (h : tx.Redacts hash content params cs redacted) :
    SameTerms redacted tx := by
  rw [h.result]
  exact ⟨rfl, rfl, rfl⟩

theorem Redacts.decode (h : tx.Redacts hash content params cs redacted) :
    ∃ d, params.decode = .ok d := by
  obtain ⟨old, hc, _⟩ := h.collides
  obtain ⟨d, _, hd, _⟩ := ChameleonParams.hash_eq_ok.1 ((id_eq_ok hc).1 h.id_before)
  exact ⟨d, hd⟩

/-- Signatures were put into the slots of a record, and nothing else of it was changed. -/
structure Signs (tx signed : Transaction) : Prop where
  terms : SameTerms signed tx
  data : signed.data = tx.data
  checkString : signed.checkString = tx.checkString

theorem signs_of_attach (h : tx.attach primary cosigner = .ok signed) : tx.Signs signed := by
  rw [attach] at h
  split at h
  · cases h
  · cases h
    exact ⟨⟨rfl, rfl, rfl⟩, rfl, rfl⟩

theorem attach_of_sign (h : tx.sign hash key cosigner = .ok signed) :
    ∃ primary second, tx.attach primary second = .ok signed := by
  obtain ⟨primary, _, h⟩ := bind_eq_ok.1 h
  obtain ⟨second, _, h⟩ := bind_eq_ok.1 h
  exact ⟨primary, second, h⟩

end Transaction

end RedactableLedger
