import RedactableLedger.Proofs.Lifecycle.Validate

namespace RedactableLedger

open RedactableLedger.Action

variable {P Q : ChameleonParams} {w w' : Workspace} {s t : String} {α β : Type}

namespace ChameleonParams

def Matched (params : ChameleonParams) : Prop :=
  ∀ bytes, params.tk = some bytes → ∃ g hk tk, decodePoint params.g "g" = .ok g ∧
    decodePoint params.hk "hk" = .ok hk ∧
    decodeScalar bytes "tk" = .ok tk ∧ Bn254.smul tk g = hk

def Decoded.public (d : Decoded) : Decoded := { d with tk := none }

theorem matched_of_decode {d : Decoded} (h : P.decode = .ok d) : P.Matched := by
  obtain ⟨_, _, hg, _, hhk, htrapdoor⟩ := decode_eq_ok.1 h
  intro bytes hbytes
  rw [hbytes] at htrapdoor
  obtain ⟨tk, htk, htrapdoor⟩ := bind_eq_ok.1 htrapdoor
  split at htrapdoor
  · exact ⟨d.g, d.hk, tk, hg, hhk, htk, ‹_›⟩
  · cases htrapdoor

theorem Matched.decodeTrapdoor {g hk : Bn254.GroupPoint} (h : P.Matched)
    (hg : decodePoint P.g "g" = .ok g) (hhk : decodePoint P.hk "hk" = .ok hk) :
    ∃ tk, decodeTrapdoor g hk P.tk = .ok tk := by
  cases htk : P.tk with
  | none => exact ⟨none, rfl⟩
  | some bytes =>
    obtain ⟨g', hk', k, hg', hhk', hk, hmul⟩ := h bytes htk
    cases hg.symm.trans hg'
    cases hhk.symm.trans hhk'
    exact ⟨some k, bind_eq_ok.2 ⟨k, hk, if_pos hmul⟩⟩

theorem decode_of_moduli (hp : P.p = fieldModulus) (hq : P.q = groupOrder) :
    P.decode = decodePoint P.g "g" >>= fun g =>
      if g = .infinity then .error .generatorIsIdentity
      else decodePoint P.hk "hk" >>= fun hk =>
        ChameleonParams.decodeTrapdoor g hk P.tk >>= fun tk =>
        .ok ⟨g, hk, tk⟩ := by
  rw [decode, if_neg (not_not.2 hp), if_neg (not_not.2 hq)]

theorem Matched.decode_sanitized (h : P.Matched) :
    P.sanitized.decode = P.decode.map Decoded.public := by
  by_cases hp : P.p = fieldModulus
  · by_cases hq : P.q = groupOrder
    · have hsanitized : P.sanitized.decode = decodePoint P.g "g" >>= fun g =>
          if g = .infinity then .error .generatorIsIdentity
          else decodePoint P.hk "hk" >>= fun hk => .ok ⟨g, hk, none⟩ :=
            decode_of_moduli (P := P.sanitized) hp hq
      rw [hsanitized, decode_of_moduli hp hq]
      cases hg : decodePoint P.g "g" with
      | error e => rfl
      | ok g =>
        by_cases hinfinity : g = .infinity
        · simp only [bind, Except.bind, if_pos hinfinity]
          rfl
        · cases hhk : decodePoint P.hk "hk" with
          | error e =>
            simp only [bind, Except.bind, if_neg hinfinity]
            rfl
          | ok hk =>
            obtain ⟨tk, htk⟩ := h.decodeTrapdoor hg hhk
            simp only [bind, Except.bind, if_neg hinfinity, htk]
            rfl
    · have hforeign : ∀ Q : ChameleonParams, Q.p = fieldModulus → ¬Q.q = groupOrder →
          Q.decode = .error .foreignOrder := by
        intro Q hp hq
        rw [decode, if_neg (not_not.2 hp), if_pos hq]
      rw [hforeign P hp hq, hforeign P.sanitized hp hq]
      rfl
  · have hforeign : ∀ Q : ChameleonParams, ¬Q.p = fieldModulus →
        Q.decode = .error .foreignField :=
      fun _ hp => if_pos hp
    rw [hforeign P hp, hforeign P.sanitized hp]
    rfl

theorem Matched.hash_sanitized (h : P.Matched) (cs : CheckString) (content : Digest) :
    P.sanitized.hash cs content = P.hash cs content := by
  rw [hash, hash, h.decode_sanitized]
  cases P.decode <;> rfl

theorem Matched.newCheckString_sanitized (h : P.Matched) :
    P.sanitized.newCheckString = P.newCheckString := by
  rw [newCheckString, newCheckString, h.decode_sanitized]
  cases P.decode <;> rfl

end ChameleonParams

theorem Transaction.id_sanitized (h : P.Matched) (tx : Transaction) :
    tx.id (some P.sanitized) = tx.id (some P) := by
  cases hcs : tx.checkString with
  | none => simp only [Transaction.id, hcs]
  | some cs => simp only [Transaction.id, hcs, h.hash_sanitized]

namespace Workspace

def Denotes (w : Workspace) (argument : String) (params : ChameleonParams) : Prop :=
  (resolveParams argument).exec w = (.ok (some params), w)

theorem Denotes.extends (h : w.Denotes s P) (hw : w.Extends w') : w'.Denotes s P :=
  settles_resolveParams s _ _ _ _ h hw

theorem Denotes.requireText (h : w.Denotes s P) (name : String) :
    requireText s name = .ok () := by
  rw [requireText_eq_ok, ← Bool.not_eq_true]
  intro hblank
  have hnone : (resolveParams s).exec w = (.ok none, w) := exec_resolveWith_blank _ _ hblank w
  cases (congrArg Prod.fst hnone).symm.trans (congrArg Prod.fst h)

end Workspace

namespace Ledger

/-- Steps that come to the same wherever there are at least the files of a workspace. -/
def Alike (w : Workspace) (a b : Action Ledger α) : Prop :=
  ∀ l : Ledger, w.Extends l.workspace → a.exec l = b.exec l

theorem Alike.refl (a : Action Ledger α) : Alike w a a := fun _ _ => rfl

theorem Alike.bind {a b : Action Ledger α} {f g : α → Action Ledger β} (h : Alike w a b)
    (ha : Action.Preserves (fun l => w.Extends l.workspace) a) (hf : ∀ x, Alike w (f x) (g x)) :
    Alike w (a >>= f) (b >>= g) := by
  intro l hl
  obtain ⟨r, l', hexec⟩ : ∃ r l', a.exec l = (r, l') := ⟨_, _, rfl⟩
  have hl' := ha l hl
  rw [exec_bind, exec_bind, ← h l hl]
  rw [hexec] at hl' ⊢
  cases r with
  | error e => rfl
  | ok x => exact hf x l' hl'

variable (hs : w.Denotes s P) (ht : w.Denotes t P.sanitized) (hP : P.Matched)

include hs ht

/-- Where two arguments denote parameters with and without their trapdoor, it only matters what
is done with these. -/
theorem alike_params (name : String) {f g : ChameleonParams → Action Ledger α}
    (h : Alike w (f P) (g P.sanitized)) :
    Alike w (require name (resolveParams s) >>= f) (require name (resolveParams t) >>= g) := by
  intro l hl
  rw [exec_bind_ok (exec_require name (hs.extends hl)),
    exec_bind_ok (exec_require name (ht.extends hl))]
  exact h l hl

theorem alike_accountOf (header : UInt8) (fee : UInt64) (rootWallet : String)
    (address : Address) (data : String) :
    Alike w (draftAccountOf header fee rootWallet address s data)
      (draftAccountOf header fee rootWallet address t data) := by
  have hkey := preserves_require "rootwallet" ((stable_extends w).publicKey rootWallet)
  exact (Alike.refl _).bind hkey fun issuer => alike_params hs ht "chparams" (.refl _)

theorem alike_account (a : CreateAccount) :
    Alike w (draftAccount { a with params := s }) (draftAccount { a with params := t }) := by
  have hvalidate : CreateAccount.validate { a with params := s } =
    CreateAccount.validate { a with params := t } := by
    simp only [CreateAccount.validate, hs.requireText, ht.requireText]
  have hkey := preserves_require "wallet" ((stable_extends w).publicKey a.wallet)
  rw [draftAccount, draftAccount, hvalidate]
  refine (Alike.refl _).bind (.lift _) fun _ => (Alike.refl _).bind hkey fun key => ?_
  exact alike_accountOf hs ht a.header a.fee a.rootWallet key.address a.data

theorem alike_addAccount (a : AddAccount) :
    Alike w (draftAddAccount { a with params := s })
      (draftAddAccount { a with params := t }) := by
  have hvalidate : AddAccount.validate { a with params := s } =
    AddAccount.validate { a with params := t } := by
    simp only [AddAccount.validate, hs.requireText, ht.requireText]
  rw [draftAddAccount, draftAddAccount, hvalidate]
  refine (Alike.refl _).bind (.lift _) fun _ => (Alike.refl _).bind (.lift _) fun address => ?_
  exact alike_accountOf hs ht a.header a.fee a.rootWallet address a.data

include hP

/-- A transfer is drafted with the parameters as they are, but hashes and draws under them
alike. -/
theorem alike_transfer (a : TransferFunds) :
    Alike w (draftTransfer { a with params := s } >>= stage)
      (draftTransfer { a with params := t } >>= stage) := by
  have hvalidate : TransferFunds.validate { a with params := s } =
    TransferFunds.validate { a with params := t } := by
    simp only [TransferFunds.validate, hs.requireText, ht.requireText]
  have hdraw : drawCheckString P.sanitized = drawCheckString P := by
    rw [drawCheckString, drawCheckString, hP.newCheckString_sanitized]
  have hstage : ∀ tx, stage ⟨tx, some P.sanitized⟩ = stage ⟨tx, some P⟩ := by
    intro tx
    rw [stage, stage, Transaction.id_sanitized hP]
  have hsource := preserves_require "from" ((stable_extends w).publicKey a.source)
  have htarget : Action.Preserves (fun l => w.Extends l.workspace)
      (transferTarget { a with params := s }) :=
    .ite (.lift _) ((preserves_require "to" ((stable_extends w).publicKey a.target)).bind
      fun _ => .pure _)
  rw [draftTransfer, draftTransfer, hvalidate]
  simp only [bind_assoc, pure_bind]
  refine (Alike.refl _).bind (.lift _) fun _ => (Alike.refl _).bind hsource fun source => ?_
  refine Alike.bind (.refl _) htarget fun target => alike_params hs ht "chparams" ?_
  rw [hdraw]
  refine (Alike.refl _).bind ((stable_extends w).checkString P) fun cs =>
    (Alike.refl _).bind (.lift _) fun tx => ?_
  rw [hstage]
  exact .refl _

end Ledger

/-- The preparations that hash under their parameters and do nothing else with them. -/
inductive Preparation.Hashes : (String → Preparation) → Prop
  | createAccount (a : CreateAccount) : Hashes fun params => .createAccount { a with params }
  | addAccount (a : AddAccount) : Hashes fun params => .addAccount { a with params }
  | transferFunds (a : TransferFunds) : Hashes fun params => .transferFunds { a with params }

/-- Whatever an account or a transfer is prepared from, it comes to the same whether the
parameters are given with their trapdoor or without it: the same answer, and the same ledger for
everything that happens afterwards. -/
theorem prepare_blind (hP : P.Matched) :
    (∀ request, Preparation.Hashes request →
      ∀ (l : Ledger) (s t : String), l.workspace.Denotes s P →
      l.workspace.Denotes t P.sanitized → (request s).run.exec l = (request t).run.exec l ∧
        ∀ os : List Occurrence, (((request s).run.exec l).2.afterAll os).link.broadcasts =
          (((request t).run.exec l).2.afterAll os).link.broadcasts) ∧
      (∀ cs content, P.sanitized.hash cs content = P.hash cs content) ∧
      ∀ tx : Transaction, tx.id (some P.sanitized) = tx.id (some P) := by
  refine ⟨fun request hrequest l s t hs ht => ?_, hP.hash_sanitized,
    Transaction.id_sanitized hP⟩
  have hthen : ∀ {a b : Action Ledger Draft}, Ledger.Alike l.workspace a b →
      (a >>= Ledger.stage).exec l = (b >>= Ledger.stage).exec l := by
    intro a b h
    rw [exec_bind, exec_bind, h l (.refl _)]
  have hrun : (request s).run.exec l = (request t).run.exec l := by
    cases hrequest with
    | createAccount a => exact hthen (Ledger.alike_account hs ht a)
    | addAccount a => exact hthen (Ledger.alike_addAccount hs ht a)
    | transferFunds a => exact Ledger.alike_transfer hs ht hP a l (.refl _)
  refine ⟨hrun, fun os => ?_⟩
  rw [hrun]

/-- A transfer under small parameters. -/
theorem transfer_blind :
    (Preparation.transferFunds
      (Ledger.transferRequest baseKey baseKey smallParams 1 1 "a")).run.exec Ledger.empty =
      (Preparation.transferFunds
        (Ledger.transferRequest baseKey baseKey smallParams.sanitized 1 1 "a")).run.exec
        Ledger.empty := by
  obtain ⟨d, hd, _⟩ := decode_smallParams
  have hs := resolveParams_text hd Ledger.empty.workspace
  have ht := resolveParams_text (ChameleonParams.decode_sanitized hd) Ledger.empty.workspace
  have hblind := (prepare_blind (ChameleonParams.matched_of_decode hd)).1 _
    (.transferFunds (Ledger.transferRequest baseKey baseKey smallParams 1 1 "a")) Ledger.empty
      _ _ hs ht
  exact hblind.1

end RedactableLedger
