import RedactableLedger.Proofs.Collision
import RedactableLedger.Proofs.Lifecycle.Prepare
import RedactableLedger.Proofs.Lifecycle.Run
import RedactableLedger.Proofs.Sha3

namespace RedactableLedger

def Store.Stages (s : Store) (hash : TxHash) : Prop := ∃ tx, s.get hash = .ok (some tx)

variable {hash target : TxHash} {tx tx' u : Transaction} {P Q : ChameleonParams} {d : Deed}
  {p : ChameleonParams.Decoded} {s s' : Store} {l : Ledger}

namespace Transaction

theorem id_public (hP : P.decode = .ok p) (hpublic : P.sanitized = Q.sanitized)
    (hid : tx.id (some Q) = .ok hash) : tx.id (some P) = .ok hash := by
  cases hc : tx.checkString with
  | none =>
    unfold Transaction.id at hid ⊢
    rw [hc] at hid ⊢
    exact hid
  | some cs =>
    exact (id_eq_ok hc).2 (ChameleonParams.hash_public hpublic hP ((id_eq_ok hc).1 hid))

/-- What the network makes of a record when it replays an announced redaction. -/
def replay (tx : Transaction) (data : Bytes) (cs : CheckString) : Transaction :=
  { tx with data, checkString := some cs }

theorem SameTerms.id_replay (h : SameTerms tx tx') (data : Bytes) (cs : CheckString)
    (params : Option ChameleonParams) :
    (tx.replay data cs).id params = (tx'.replay data cs).id params :=
  have terms : SameTerms (tx.replay data cs) (tx'.replay data cs) := ⟨h.header, h.fee, h.body⟩
  terms.id rfl rfl params

theorem Redacts.replay {data : Bytes} {params : ChameleonParams} {cs : CheckString}
    (h : tx.Redacts hash data params cs tx') : tx'.replay data cs = tx' := by
  rw [h.result]
  rfl

end Transaction

namespace Deed

/-- A deed other than staging a hash anew keeps the terms of its record. -/
theorem Rewrites.terms (h : d.Rewrites hash tx tx') (hstaged : hash ∉ d.staged?) :
    tx'.SameTerms tx := by
  cases h with
  | kept => exact .refl _
  | signed _ hsigns => exact hsigns.terms
  | redacted _ _ _ hredacts => exact hredacts.terms
  | staged hd => exact absurd (by rw [hd]; rfl) hstaged

theorem Rewrites.data (h : d.Rewrites hash tx tx') (hstaged : hash ∉ d.staged?) :
    tx'.data = (d.payload? hash).getD tx.data := by
  cases h with
  | kept htouched =>
    have hp : d.payload? hash = none := by
      rw [payload?, Option.map_eq_none_iff, Option.filter_eq_none_iff]
      intro r hr ht
      rw [← of_decide_eq_true ht] at htouched
      exact htouched (target_mem_touched hr)
    rw [hp]
    rfl
  | signed hd hsigns =>
    rw [hd, hsigns.data]
    rfl
  | redacted hr ht _ hredacts =>
    rw [payload?_of_redaction hr ht, hredacts.result]
    rfl
  | staged hd => exact absurd (by rw [hd]; rfl) hstaged

/-- A deed keeps the identifier of a record if it redacts the record under the same public
parameters only. -/
theorem Rewrites.id (h : d.Rewrites hash tx tx') (hP : P.decode = .ok p)
    (hstaged : hash ∉ d.staged?)
    (hpublic : ∀ r ∈ d.redaction?, r.target = hash → r.params.sanitized = P.sanitized)
    (hid : tx.id (some P) = .ok hash) : tx'.id (some P) = .ok hash := by
  cases h with
  | kept => exact hid
  | signed _ hsigns => rw [hsigns.terms.id hsigns.data hsigns.checkString, hid]
  | redacted hr ht _ hredacts =>
    exact Transaction.id_public hP (hpublic _ hr ht).symm hredacts.id_after
  | staged hd => exact absurd (by rw [hd]; rfl) hstaged

end Deed

namespace Ledger

def lastPayload (hash : TxHash) (initial : Bytes) (deeds : List Deed) : Bytes :=
  (deeds.filterMap (·.payload? hash)).getLastD initial

/-- A deed that keeps the identifier of the record of a hash. -/
structure Preserves (d : Deed) (hash : TxHash) (P : ChameleonParams) : Prop where
  fits : d.Fits
  staged : hash ∉ d.staged?
  params : ∀ r ∈ d.redaction?, r.target = hash → r.params.sanitized = P.sanitized

theorem stands_of_run (os : List Occurrence) (hP : P.decode = .ok p)
    (hget : l.store.get hash = .ok (some tx)) (hid : tx.id (some P) = .ok hash)
    (hdeeds : ∀ d ∈ l.deeds os, Preserves d hash P) :
    ∃ t, (l.afterAll os).store.get hash = .ok (some t) ∧ t.id (some P) = .ok hash ∧
      t.SameTerms tx ∧ t.data = lastPayload hash tx.data (l.deeds os) := by
  induction os generalizing l tx with
  | nil => exact ⟨tx, hget, hid, .refl tx, rfl⟩
  | cons o os ih =>
    have hd := hdeeds _ List.mem_cons_self
    obtain ⟨tx₁, hget₁, hrewrites⟩ := (effect_of_deed l o).rewrites hd.fits hget
    have hid₁ := hrewrites.id hP hd.staged hd.params hid
    obtain ⟨t, hgett, hidt, hterms, hdata⟩ :=
      ih hget₁ hid₁ fun d hmem => hdeeds d (List.mem_cons_of_mem _ hmem)
    refine ⟨t, hgett, hidt, hterms.trans (hrewrites.terms hd.staged), ?_⟩
    rw [hdata, hrewrites.data hd.staged, deeds, lastPayload, lastPayload,
      getLastD_filterMap_cons]

/-- A redactable transaction keeps its hash as its identifier, and what was prepared of it
besides its data, as long as its redactions are under its own public parameters and nothing else
is staged under the hash. -/
theorem staged_record_stands (l : Ledger) (o : Occurrence) (os : List Occurrence)
    (hdeed : l.deed o = .staged hash ⟨tx, some Q⟩) (hfits : tx.Fits) (hP : P.decode = .ok p)
    (hpublic : P.sanitized = Q.sanitized)
    (hdeeds : ∀ d ∈ (l.after o).deeds os, Preserves d hash P) :
    ∃ t, ((l.after o).afterAll os).store.get hash = .ok (some t) ∧ t.id (some P) = .ok hash ∧
      t.SameTerms tx ∧ t.data = lastPayload hash tx.data ((l.after o).deeds os) := by
  obtain ⟨hget, hid, _⟩ := staged_of_deed hdeed hfits
  exact stands_of_run os hP hget (Transaction.id_public hP hpublic hid) hdeeds

theorem not_staged_of_redact (l : Ledger) (other hash : TxHash) (data : Bytes)
    (P : ChameleonParams) :
    hash ∉ (l.deed (.operation (.redact other data P))).staged? := by
  rw [deed]
  cases ((redact other data P).exec l).1 <;> exact Option.not_mem_none _

theorem preserves_of_redact {data : Bytes} (hdata : Layout.Fits data) (l : Ledger)
    (other hash : TxHash) (P : ChameleonParams) :
    Preserves (l.deed (.operation (.redact other data P))) hash P := by
  rw [deed]
  cases ((redact other data P).exec l).1 with
  | error e =>
    exact ⟨trivial, Option.not_mem_none _, fun r hr => absurd hr (Option.not_mem_none r)⟩
  | ok cs =>
    refine ⟨hdata, Option.not_mem_none _, fun r hr _ => ?_⟩
    cases hr
    rfl

def baseTransfer : Occurrence :=
  .operation (.prepare (.transferFunds (transferRequest baseKey baseKey smallParams 1 1 "a")))

def baseTransferTx : Transaction :=
  .unsigned 0 1 (Bytes.ofText "a") (some (.ofScalar 1))
    (.fundsTransfer 1 0 baseKey.address.digest baseKey.address.digest)

theorem baseTransferTx_fits : baseTransferTx.Fits := ⟨by decide, trivial⟩

theorem deed_of_baseTransfer :
    ∃ hash, Ledger.empty.deed baseTransfer =
      .staged hash ⟨baseTransferTx, some smallParams⟩ := by
  obtain ⟨d, hd, _⟩ := decode_smallParams
  have hone : (1 : UInt64) ≠ 0 := by
    decide
  exact deed_of_transfer baseKey_isReadable baseKey_isReadable hd hone hone "a" Ledger.empty

theorem transfer_stands : ∃ hash t,
    Ledger.empty.deed baseTransfer = .staged hash ⟨baseTransferTx, some smallParams⟩ ∧
    ((Ledger.empty.after baseTransfer).afterAll
      [.operation (.redact hash [98] smallParams)]).store.get hash = .ok (some t) ∧
    t.id (some smallParams) = .ok hash ∧ t.SameTerms baseTransferTx := by
  obtain ⟨d, hd, _⟩ := decode_smallParams
  obtain ⟨hash, hdeed⟩ := deed_of_baseTransfer
  obtain ⟨t, hget, hid, hterms, _⟩ := staged_record_stands Ledger.empty baseTransfer
    [.operation (.redact hash [98] smallParams)] hdeed baseTransferTx_fits hd rfl (by
      intro d hd
      rw [deeds, deeds, List.mem_singleton] at hd
      rw [hd]
      exact preserves_of_redact (by decide) _ hash hash smallParams)
  exact ⟨hash, t, hdeed, hget, hid, hterms⟩

/-- Each preparation of a run yields an identifier that is not staged yet. -/
def FreshRun (l : Ledger) : List Occurrence → Prop
  | [] => True
  | o :: os => (∀ hash ∈ (l.deed o).staged?, ¬ l.store.Stages hash) ∧ (l.after o).FreshRun os

theorem FreshRun.not_staged {os : List Occurrence} (h : l.FreshRun os)
    (hfits : ∀ d ∈ l.deeds os, d.Fits) (hget : l.store.get hash = .ok (some tx)) :
    ∀ d ∈ l.deeds os, hash ∉ d.staged? := by
  induction os generalizing l tx with
  | nil =>
    intro d hd
    cases hd
  | cons o os ih =>
    intro d hd
    rw [deeds, List.mem_cons] at hd
    obtain rfl | hd := hd
    · intro hs
      exact h.1 hash hs ⟨tx, hget⟩
    · obtain ⟨tx₁, hget₁, _⟩ := (effect_of_deed l o).rewrites (hfits _ List.mem_cons_self) hget
      exact ih h.2 (fun d hd => hfits d (List.mem_cons_of_mem _ hd)) hget₁ d hd

theorem terms_of_run {os : List Occurrence} (hfresh : l.FreshRun os)
    (hfits : ∀ d ∈ l.deeds os, d.Fits) (hget : l.store.get hash = .ok (some tx)) :
    ∃ t, (l.afterAll os).store.get hash = .ok (some t) ∧ t.SameTerms tx := by
  have hstaged := hfresh.not_staged hfits hget
  refine record_of_run (motive := (·.SameTerms tx)) os hget hfits ?_ (.refl tx)
  intro d hd a b hrewrites ha
  exact (hrewrites.terms (hstaged d hd)).trans ha

/-- Staging an announcement puts what the network makes of the target in its place. -/
theorem store_of_announcement {o : Occurrence} {cs : CheckString} {newData : Bytes}
    {issuer : Digest} (hdeed : l.deed o = .staged hash ⟨u, some P⟩)
    (hbody : u.body = .update target cs newData issuer) :
    ∃ old, l.store.get target = .ok (some old) ∧
      old.Redacts target newData P cs (old.replay newData cs) ∧
      (l.after o).store = (l.store.put target (old.replay newData cs)).put hash u := by
  have heffect := effect_of_deed l o
  rw [hdeed] at heffect
  generalize (l.after o).store = s' at heffect
  cases heffect with
  | staged _ _ hr =>
    rw [Draft.redaction?, hbody] at hr
    cases hr
  | announced _ _ hr hbody' hreplaces =>
    rw [Draft.redaction?, hbody] at hr
    cases hr
    rw [hbody] at hbody'
    cases hbody'
    obtain ⟨old, redacted, hload, hredacts, rfl⟩ := hreplaces
    obtain rfl : redacted = old.replay newData cs := hredacts.result
    exact ⟨old, Store.load_eq_ok.1 hload, hredacts, rfl⟩

/-- Staging an announcement leaves the redacted record under the target. -/
theorem target_of_announcement {o : Occurrence} {cs : CheckString} {newData : Bytes}
    {issuer : Digest} (hdeed : l.deed o = .staged hash ⟨u, some P⟩)
    (hbody : u.body = .update target cs newData issuer) (hfits : u.Fits)
    (hfresh : ¬ l.store.Stages hash) :
    ∃ t, (l.after o).store.get target = .ok (some t) ∧ t.replay newData cs = t ∧
      t.id (some P) = .ok target := by
  have hdata : Layout.Fits newData := by
    have hb := hfits.2
    rw [hbody] at hb
    exact hb
  obtain ⟨old, hold, hredacts, hstore⟩ := store_of_announcement hdeed hbody
  -- otherwise the announcement would have replaced its target
  have hne : target ≠ hash := by
    rintro rfl
    exact hfresh ⟨old, hold⟩
  refine ⟨old.replay newData cs, ?_, hredacts.replay, hredacts.id_after⟩
  rw [hstore, Store.get_put_of_ne _ hne]
  exact Store.get_put_self _ _ (hredacts.fits (Store.fits_of_get hold) hdata)

/-- Right after an update is prepared its target is as the update announces, and at every later
point substituting the announced data and check string into the target yields the target's
hash. -/
theorem update_replays (l : Ledger) (o : Occurrence) (os : List Occurrence) {cs : CheckString}
    {newData : Bytes} {issuer : Digest} (hdeed : l.deed o = .staged hash ⟨u, some P⟩)
    (hbody : u.body = .update target cs newData issuer) (hfresh : l.FreshRun (o :: os))
    (hfits : ∀ d ∈ l.deeds (o :: os), d.Fits) :
    (∃ t, (l.after o).store.get target = .ok (some t) ∧ t.replay newData cs = t) ∧
      ∃ u' t, ((l.after o).afterAll os).store.get hash = .ok (some u') ∧
        u'.body = .update target cs newData issuer ∧
        ((l.after o).afterAll os).store.get target = .ok (some t) ∧
        (t.replay newData cs).id (some P) = .ok target := by
  have hu : u.Fits := by
    have hd := hfits _ List.mem_cons_self
    rw [hdeed] at hd
    exact hd
  have hnew : ¬ l.store.Stages hash := hfresh.1 hash (by rw [hdeed]; rfl)
  have hlater : ∀ d ∈ (l.after o).deeds os, d.Fits :=
    fun d hd => hfits d (List.mem_cons_of_mem _ hd)
  obtain ⟨hget, _⟩ := staged_of_deed hdeed hu
  obtain ⟨t, hgett, hreplay, hid⟩ := target_of_announcement hdeed hbody hu hnew
  obtain ⟨u', hget', hterms⟩ := terms_of_run hfresh.2 hlater hget
  obtain ⟨t', hgett', hterms'⟩ := terms_of_run hfresh.2 hlater hgett
  refine ⟨⟨t, hgett, hreplay⟩, u', t', hget', hterms.body.trans hbody, hgett', ?_⟩
  rw [hterms'.id_replay, hreplay, hid]

/-- An announcement that the data of a transfer was replaced, by the same data. -/
def baseUpdateTx (target : TxHash) : Transaction :=
  .unsigned 0 1 (Bytes.ofText "") (some (.ofScalar 1))
    (.update target (.ofScalar 1) (Bytes.ofText "a") baseKey.address.digest)

theorem baseUpdateTx_fits (target : TxHash) : (baseUpdateTx target).Fits :=
  ⟨show Layout.Fits (Bytes.ofText "") by decide, show Layout.Fits (Bytes.ofText "a") by decide⟩

theorem decode_small :
    smallParams.decode = .ok ⟨.affine 1 2, Bn254.smul 5 (.affine 1 2), some 5⟩ :=
  ChameleonParams.decode_ofTrapdoor Bn254.generator_onCurve (by decide) 5

/-- The chameleon hash of a content digest under the small parameters. -/
theorem hash_small {content : Digest}
    (h : sha3 (Bn254.encodePoint (Bn254.smul (messageScalar content) (.affine 1 2) +
      Bn254.smul 1 (Bn254.smul 5 (.affine 1 2)))).bytes = hash) :
    smallParams.hash (.ofScalar 1) content = .ok hash :=
  ChameleonParams.hash_eq_ok.2 ⟨_, _, decode_small, CheckString.decode_ofScalar 1, h.symm⟩

def baseTransferHash : TxHash :=
  .ofNatBE 32 0xb3de138d516708b6d81c4aec7fa96da47da3aefe985fcb15e5597d35dcab3476

def baseUpdateHash : TxHash :=
  .ofNatBE 32 0x2450246cfbd97d3f0e1ed4752ae2c5714db0a056355552e49d175f3bf9231bb8

theorem digest_baseKey : baseKey.address.digest =
    .ofNatBE 32 0x684ee3c4c1c613afc7a19c630502987e630ea7ebb2bf1d84a65a727109385bcf := by
  rw [Address.digest, sha3_eq]
  decide +kernel

theorem digests_baseTransferTx :
    baseTransferTx.contentHash =
      .ofNatBE 32 0x525f401d23d7ba1697b173e32f6ab075391dfa21e6cbbbcd9b5ecf4006c6c81b ∧
    baseTransferTx.id (some smallParams) = .ok baseTransferHash := by
  have hcontent : baseTransferTx.contentHash =
      .ofNatBE 32 0x525f401d23d7ba1697b173e32f6ab075391dfa21e6cbbbcd9b5ecf4006c6c81b := by
    rw [baseTransferTx, digest_baseKey, Transaction.contentHash, sha3_eq]
    decide +kernel
  refine ⟨hcontent, (Transaction.id_eq_ok rfl).2 (hash_small ?_)⟩
  rw [hcontent, sha3_eq]
  decide +kernel

theorem id_baseTransferTx : baseTransferTx.id (some smallParams) = .ok baseTransferHash :=
  digests_baseTransferTx.2

theorem id_baseUpdateTx : (baseUpdateTx baseTransferHash).id (some smallParams) =
    .ok baseUpdateHash := by
  have hcontent : (baseUpdateTx baseTransferHash).contentHash =
      .ofNatBE 32 0x7426911dcf108ec75226df07fcb5f25f3fb5b93cf6f63143ce3a51ddc8aa053c := by
    rw [baseUpdateTx, digest_baseKey, Transaction.contentHash, sha3_eq]
    decide +kernel
  refine (Transaction.id_eq_ok rfl).2 (hash_small ?_)
  rw [hcontent, sha3_eq]
  decide +kernel

theorem baseUpdateHash_ne : baseUpdateHash ≠ baseTransferHash := by
  decide

theorem ids_ne {h : TxHash} (ht : baseTransferTx.id (some smallParams) = .ok h)
    (hu : (baseUpdateTx h).id (some smallParams) = .ok hash) : hash ≠ h := by
  obtain rfl : baseTransferHash = h := Except.ok.inj (id_baseTransferTx.symm.trans ht)
  obtain rfl : baseUpdateHash = hash := Except.ok.inj (id_baseUpdateTx.symm.trans hu)
  exact baseUpdateHash_ne

theorem store_supply (l : Ledger) (draws : Draws) :
    (l.after (.supply draws)).store = l.store := rfl

/-- The ledger in which only the transfer was prepared, without randomness. -/
def transferred : Ledger := (Ledger.empty.after baseTransfer).after (.supply .none)

theorem store_transferred : transferred.store = (Ledger.empty.after baseTransfer).store :=
  store_supply (Ledger.empty.after baseTransfer) .none

def baseUpdate (target : TxHash) : Occurrence :=
  .operation (.prepare (.updateData (updateRequest target baseKey smallParams 1 "a" "")))

theorem get_transferred : ∃ h, transferred.store.get h = .ok (some baseTransferTx) ∧
    baseTransferTx.id (some smallParams) = .ok h ∧
    ∀ hash, hash ≠ h → ¬ transferred.store.Stages hash := by
  obtain ⟨h, hdeed⟩ := deed_of_baseTransfer
  obtain ⟨hget, hid, _⟩ := staged_of_deed hdeed baseTransferTx_fits
  rw [store_transferred]
  refine ⟨h, hget, hid, ?_⟩
  rintro hash hne ⟨tx, hstaged⟩
  have hframe : hash ∉ (Ledger.empty.deed baseTransfer).touched := by
    rw [hdeed]
    exact fun hmem => hne (List.mem_singleton.1 hmem)
  rw [(effect_of_deed Ledger.empty baseTransfer).frame hframe] at hstaged
  cases hstaged

theorem deed_of_baseUpdate {h : TxHash}
    (hget : transferred.store.get h = .ok (some baseTransferTx))
    (hid : baseTransferTx.id (some smallParams) = .ok h) :
    ∃ hash, transferred.deed (baseUpdate h) =
      .staged hash ⟨baseUpdateTx h, some smallParams⟩ := by
  obtain ⟨d, hd, htk⟩ := decode_smallParams
  have hredacts := Transaction.redacts_same rfl rfl hid hd htk (by decide)
    (CheckString.decode_ofScalar 1)
  have hone : (1 : UInt64) ≠ 0 := by
    decide
  exact deed_of_update baseKey_isReadable hd hone
    (outcome_of_amend hget (Transaction.redact_of_redacts hredacts)) ""

theorem base_update_replays : ∃ h hash t,
    transferred.deed (baseUpdate h) = .staged hash ⟨baseUpdateTx h, some smallParams⟩ ∧
    ((transferred.after (baseUpdate h)).afterAll
      [.operation (.redact h [98] smallParams)]).store.get h = .ok (some t) ∧
    (t.replay (Bytes.ofText "a") (.ofScalar 1)).id (some smallParams) = .ok h := by
  obtain ⟨h, hget, hid, hstages⟩ := get_transferred
  obtain ⟨hash, hdeed⟩ := deed_of_baseUpdate hget hid
  have hne : hash ≠ h := ids_ne hid (staged_of_deed hdeed (baseUpdateTx_fits h)).2.1
  have hredact := preserves_of_redact (show Layout.Fits [98] by decide)
    (transferred.after (baseUpdate h)) h h smallParams
  obtain ⟨_, u', t, _, _, hgett, hidt⟩ := update_replays transferred (baseUpdate h)
    [.operation (.redact h [98] smallParams)] hdeed rfl
    (by
      refine ⟨fun hash' hmem => ?_, fun hash' hmem => absurd hmem ?_, trivial⟩
      · rw [hdeed] at hmem
        cases hmem
        exact hstages hash hne
      · exact not_staged_of_redact _ _ _ _ _)
    (by
      intro d hd
      rw [deeds, deeds, deeds, List.mem_cons, List.mem_singleton, hdeed] at hd
      obtain rfl | rfl := hd
      · exact baseUpdateTx_fits h
      · exact hredact.fits)
  exact ⟨h, hash, t, hdeed, hgett, hidt⟩

end Ledger

end RedactableLedger
