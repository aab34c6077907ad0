import RedactableLedger.Proofs.Collision

namespace RedactableLedger

variable {hash : TxHash} {tx signed redacted : Transaction} {P Q : ChameleonParams}
  {p q : ChameleonParams.Decoded} {cs : CheckString} {r tk : Bn254.Scalar}
  {a : Bn254.GroupPoint} {data : Bytes}

namespace Transaction

/-- A transaction whose data can be replaced. -/
structure IsRedactable (tx : Transaction) : Prop where
  kind : tx.kind.isRedactable = true
  checkString : ∃ cs, tx.checkString = some cs

def contentScalar (tx : Transaction) : Bn254.Scalar := messageScalar tx.contentHash

def CommitsTo (tx : Transaction) (params : ChameleonParams) (a : Bn254.GroupPoint) : Prop :=
  ∃ cs d r, tx.checkString = some cs ∧ params.decode = .ok d ∧ cs.decode = .ok r ∧
    a = d.commit tx.contentScalar r

def idOfPoint (a : Bn254.GroupPoint) : TxHash := sha3 (Bn254.encodePoint a).bytes

theorem CommitsTo.id (h : tx.CommitsTo P a) : tx.id (some P) = .ok (idOfPoint a) := by
  obtain ⟨cs, d, r, hc, hd, hr, rfl⟩ := h
  exact (id_eq_ok hc).2 (ChameleonParams.hash_eq_ok.2 ⟨d, r, hd, hr, rfl⟩)

theorem IsRedactable.commitsTo (h : tx.IsRedactable) (hid : tx.id (some P) = .ok hash) :
    ∃ a, tx.CommitsTo P a ∧ hash = idOfPoint a := by
  obtain ⟨cs, hc⟩ := h.checkString
  obtain ⟨d, r, hd, hr, he⟩ := ChameleonParams.hash_eq_ok.1 ((id_eq_ok hc).1 hid)
  exact ⟨_, ⟨cs, d, r, hc, hd, hr, rfl⟩, he⟩

theorem CommitsTo.onCurve (h : tx.CommitsTo P a) : a.OnCurve Bn254.curveConstant := by
  obtain ⟨_, d, r, _, hd, _, rfl⟩ := h
  obtain ⟨G, H, hdenotes⟩ := ChameleonParams.exists_denotes_of_decode hd
  exact (hdenotes.commit _ r).onCurve

/-- A transaction is redacted to any data under parameters that reproduce its hash and have an
invertible trapdoor. -/
theorem IsRedactable.redacts (h : tx.IsRedactable) (hid : tx.id (some Q) = .ok hash)
    (hq : Q.decode = .ok q) (htk : q.tk = some tk) (hne : tk ≠ 0) (data : Bytes) :
    ∃ cs redacted, tx.Redacts hash data Q cs redacted := by
  obtain ⟨a, ⟨old, q', r, hc, hq', hr, ha⟩, he⟩ := h.commitsTo hid
  cases hq.symm.trans hq'
  let cleared := { tx with data }
  let r' := ChameleonParams.collisionScalar tk r tx.contentScalar cleared.contentScalar
  have hcommits :
      Transaction.CommitsTo { cleared with checkString := some (.ofScalar r') } Q a := by
    refine ⟨.ofScalar r', q, r', rfl, hq, CheckString.decode_ofScalar r', ?_⟩
    rw [ha]
    exact ((ChameleonParams.commit_collisionScalar_eq_iff hq hne).2
      (.inr (ChameleonParams.smul_trapdoor hq htk))).symm
  -- the content does not hold the check string, so the collision is the redacted record's
  refine ⟨.ofScalar r', _, h.kind, rfl, ⟨old, hc, ?_⟩, hid, ?_⟩
  · exact ChameleonParams.collide_eq_ok.2 ⟨q, tk, r, hq, htk, hne, hr, rfl⟩
  · rw [he]
    exact hcommits.id

theorem Redacts.isRedactable (h : tx.Redacts hash data Q cs redacted) : tx.IsRedactable := by
  obtain ⟨old, hold, _⟩ := h.collides
  exact ⟨h.redactable, old, hold⟩

theorem Redacts.trapdoor (h : tx.Redacts hash data Q cs redacted) :
    ∃ q tk, Q.decode = .ok q ∧ q.tk = some tk ∧ tk ≠ 0 := by
  obtain ⟨_, _, hcollide⟩ := h.collides
  obtain ⟨q, tk, _, hq, htk, hne, _⟩ := ChameleonParams.collide_eq_ok.1 hcollide
  exact ⟨q, tk, hq, htk, hne⟩

/-- Under other parameters a redaction keeps the committed point just if its trapdoor is theirs
or the content is still hashed as the same scalar. -/
theorem Redacts.commitsTo (h : tx.Redacts hash data Q cs redacted) (hq : Q.decode = .ok q)
    (htk : q.tk = some tk) (hp : P.decode = .ok p) (ha : tx.CommitsTo P a) :
    ∃ a', redacted.CommitsTo P a' ∧
      (a' = a ↔ redacted.contentScalar = tx.contentScalar ∨ Bn254.smul tk p.g = p.hk) := by
  obtain ⟨old, hold, hcollide⟩ := h.collides
  obtain ⟨q', tk', r, hq', htk', hne, hr, hcs⟩ := ChameleonParams.collide_eq_ok.1 hcollide
  cases hq.symm.trans hq'
  cases htk.symm.trans htk'
  obtain ⟨_, p', r', hc, hp', hr', rfl⟩ := ha
  cases hp.symm.trans hp'
  cases hold.symm.trans hc
  cases hr.symm.trans hr'
  have hnew : redacted.checkString = some cs := by
    rw [h.result]
  rw [hcs] at hnew
  exact ⟨_, ⟨_, p, _, hnew, hp, CheckString.decode_ofScalar _, rfl⟩,
    ChameleonParams.commit_collisionScalar_eq_iff hp hne⟩

/-- Whatever the trapdoor, there are parameters with it that a transaction commits to the same
point under. -/
theorem CommitsTo.exists_foreign (h : tx.CommitsTo P a) (hne : a ≠ .infinity)
    (hc : tx.checkString = some cs) (hr : cs.decode = .ok r)
    (hsum : tx.contentScalar + r * tk ≠ 0) :
    ∃ g, (ChameleonParams.ofTrapdoor g tk).decode = .ok ⟨g, Bn254.smul tk g, some tk⟩ ∧
      tx.CommitsTo (.ofTrapdoor g tk) a := by
  obtain ⟨_, d, r', hc', hd, hr', rfl⟩ := h
  cases hc.symm.trans hc'
  cases hr.symm.trans hr'
  obtain ⟨g, hg, hg0, hcommit⟩ := ChameleonParams.exists_foreign hd hne hsum
  have hdecode := ChameleonParams.decode_ofTrapdoor hg hg0 tk
  exact ⟨g, hdecode, cs, _, r, hc, hdecode, hr, hcommit.symm⟩

/-- Under the check string zero a transaction has the same identifier whatever the hash key. -/
theorem id_of_zero (hc : tx.checkString = some (.ofScalar 0)) (hp : P.decode = .ok p)
    (hq : Q.decode = .ok q) (hg : p.g = q.g) (hid : tx.id (some P) = .ok hash) :
    tx.id (some Q) = .ok hash := by
  obtain ⟨p', r, hp', hr, he⟩ := ChameleonParams.hash_eq_ok.1 ((id_eq_ok hc).1 hid)
  cases hp.symm.trans hp'
  cases (CheckString.decode_ofScalar 0).symm.trans hr
  refine (id_eq_ok hc).2 (ChameleonParams.hash_eq_ok.2 ⟨q, 0, hq, hr, ?_⟩)
  rw [he, ChameleonParams.commit_zero hp, ChameleonParams.commit_zero hq, hg]

theorem Signs.refl (tx : Transaction) : tx.Signs tx := ⟨.refl tx, rfl, rfl⟩

theorem Signs.trans (h : tx.Signs signed) (h' : signed.Signs redacted) : tx.Signs redacted :=
  ⟨h'.terms.trans h.terms, h'.data.trans h.data, h'.checkString.trans h.checkString⟩

theorem Signs.id (h : tx.Signs signed) (params : Option ChameleonParams) :
    signed.id params = tx.id params :=
  h.terms.id h.data h.checkString params

theorem Signs.contentScalar (h : tx.Signs signed) :
    signed.contentScalar = tx.contentScalar := by
  rw [Transaction.contentScalar, h.terms.contentHash h.data, Transaction.contentScalar]

theorem Signs.isRedactable (h : tx.Signs signed) (hr : tx.IsRedactable) :
    signed.IsRedactable := by
  refine ⟨?_, ?_⟩
  · rw [h.terms.kind]
    exact hr.kind
  · rw [h.checkString]
    exact hr.checkString

end Transaction

end RedactableLedger
