import RedactableLedger.Lifecycle.Ledger

namespace RedactableLedger

theorem bind_eq_ok {x : Except ε α} {f : α → Except ε β} :
    x >>= f = .ok b ↔ ∃ a, x = .ok a ∧ f a = .ok b := by
  cases x with
  | ok a =>
    constructor
    · intro h
      exact ⟨a, rfl, h⟩
    · rintro ⟨a', ha, h⟩
      cases ha
      exact h
  | error e =>
    constructor
    · intro h
      cases h
    · rintro ⟨a, ha, _⟩
      cases ha

theorem bind_eq_map_bind {x : Except ε α} {f : α → Except ε γ} {f' : α → Except ε β} {g : β → γ}
    (h : ∀ a, f a = (f' a).map g) : x >>= f = (x >>= f').map g := by
  cases x with
  | error e => rfl
  | ok a => exact h a

theorem mapError_eq_ok {x : Except ε α} {f : ε → ε'} : x.mapError f = .ok a ↔ x = .ok a := by
  cases x with
  | ok b => constructor <;> intro h <;> cases h <;> rfl
  | error e => constructor <;> intro h <;> cases h

theorem map_eq_ok {x : Except ε α} {g : α → β} {b : β} :
    x.map g = .ok b ↔ ∃ a, x = .ok a ∧ g a = b := by
  cases x with
  | error e =>
    constructor
    · intro h
      cases h
    · rintro ⟨a, ha, _⟩
      cases ha
  | ok a =>
    constructor
    · intro h
      cases h
      exact ⟨a, rfl, rfl⟩
    · rintro ⟨a', ha, rfl⟩
      cases ha
      rfl

/-- The failure is not that an argument is missing or out of range. -/
def Fault.IsNoRefusal (e : Fault) : Prop := e.kind ≠ .validation

theorem Fault.not_isNoRefusal (v : Refusal) :
    ¬(Fault.validation v).IsNoRefusal := fun h => h rfl

def Outcome.Fails (r : Outcome α) (Q : Fault → Prop) : Prop := ∀ e, r = .error e → Q e

namespace Outcome

variable {Q : Fault → Prop}

theorem Fails.ok (x : α) : Fails (.ok x) Q := by
  intro e h
  cases h

theorem Fails.error {e : Fault} (h : Q e) : Fails (.error e : Outcome α) Q := by
  intro e' he
  cases he
  exact h

theorem Fails.bind {x : Outcome α} {f : α → Outcome β} (hx : Fails x Q)
    (hf : ∀ a, x = .ok a → Fails (f a) Q) :
    Fails (x >>= f) Q := by
  intro e h
  cases x with
  | error e' =>
    cases h
    exact hx _ rfl
  | ok a => exact hf a rfl e h

theorem Fails.mapError {x : Except ε α} {g : ε → Fault} (h : ∀ e, Q (g e)) :
    Fails (x.mapError g) Q := by
  intro e he
  cases x with
  | error e' =>
    cases he
    exact h _
  | ok a => cases he

theorem Fails.ite {p : Prop} [Decidable p] {x y : Outcome α} (hx : p → Fails x Q)
    (hy : ¬p → Fails y Q) :
    Fails (if p then x else y) Q := by
  split
  · exact hx ‹_›
  · exact hy ‹_›

theorem fails_mapM {f : α → Outcome β} (h : ∀ a, (f a).Fails Q) (o : Option α) :
    Fails (o.mapM f) Q := by
  cases o with
  | none => exact .ok none
  | some a => exact Fails.bind (h a) fun b _ => .ok (some b)

theorem isSome_of_mapM {f : α → Outcome β} {o : Option α} {o' : Option β}
    (h : o.mapM f = .ok o') :
    o'.isSome = o.isSome := by
  cases o with
  | none =>
    cases h
    rfl
  | some a =>
    obtain ⟨b, _, h⟩ := bind_eq_ok.1 h
    cases h
    rfl

end Outcome

namespace Action

variable {σ τ α β υ : Type}

theorem exec_bind_ok {a : Action σ α} {f : α → Action σ β} {s t : σ} {x : α}
    (h : a.exec s = (.ok x, t)) : (a >>= f).exec s = (f x).exec t := by
  rw [exec_bind, h]

theorem exec_bind_error {a : Action σ α} {f : α → Action σ β} {s t : σ} {e : Fault}
    (h : a.exec s = (.error e, t)) : (a >>= f).exec s = (.error e, t) := by
  rw [exec_bind, h]

theorem exec_map (f : α → β) (a : Action σ α) (s : σ) :
    (f <$> a).exec s = ((a.exec s).1.map f, (a.exec s).2) := by
  rw [← bind_pure_comp, exec_bind]
  obtain ⟨r, t, h⟩ : ∃ r t, a.exec s = (r, t) := ⟨_, _, rfl⟩
  rw [h]
  cases r <;> rfl

theorem exec_map_ok {f : α → β} {a : Action σ α} {s t : σ} {y : β}
    (h : (f <$> a).exec s = (.ok y, t)) :
    ∃ x, a.exec s = (.ok x, t) ∧ f x = y := by
  rw [exec_map] at h
  obtain ⟨r, t', hexec⟩ : ∃ r t', a.exec s = (r, t') := ⟨_, _, rfl⟩
  rw [hexec] at h ⊢
  cases r with
  | error e => cases h
  | ok x =>
    cases h
    exact ⟨x, rfl, rfl⟩

theorem exec_map_error {f : α → β} {a : Action σ α} {s t : σ} {e : Fault}
    (h : (f <$> a).exec s = (.error e, t)) : a.exec s = (.error e, t) := by
  rw [exec_map] at h
  obtain ⟨r, t', hexec⟩ : ∃ r t', a.exec s = (r, t') := ⟨_, _, rfl⟩
  rw [hexec] at h ⊢
  cases r with
  | error e =>
    cases h
    rfl
  | ok x => cases h

theorem error_of_map {a : Action σ α} {s : σ} {e : Fault} (f : α → β)
    (h : (a.exec s).1 = .error e) :
    ((f <$> a).exec s).1 = .error e := by
  rw [exec_map, h]
  rfl

theorem exec_on (part : σ → τ) (restore : τ → σ → σ) (a : Action τ α) (s : σ) :
    (on part restore a).exec s = ((a.exec (part s)).1, restore (a.exec (part s)).2 s) := rfl

/-- An action leaves a view of the state as it was, also when it fails. -/
def Keeps (view : σ → υ) (a : Action σ α) : Prop := ∀ s, view (a.exec s).2 = view s

variable {view : σ → υ}

theorem Keeps.pure (x : α) : Keeps view (pure x : Action σ α) := fun _ => rfl

theorem Keeps.lift (r : Outcome α) : Keeps view (lift r : Action σ α) := fun _ => rfl

theorem Keeps.query (f : σ → Outcome α) : Keeps view (query f) := fun _ => rfl

theorem Keeps.throw (e : Fault) : Keeps view (throw e : Action σ α) := fun _ => rfl

theorem Keeps.bind {a : Action σ α} {f : α → Action σ β} (ha : Keeps view a)
    (hf : ∀ x, Keeps view (f x)) : Keeps view (a >>= f) := by
  intro s
  obtain ⟨r, t, h⟩ : ∃ r t, a.exec s = (r, t) := ⟨_, _, rfl⟩
  have ht : view t = view s := by
    rw [← ha s, h]
  cases r with
  | ok x => rw [exec_bind_ok h, hf x t, ht]
  | error e => rw [exec_bind_error h, ht]

theorem Keeps.exec_bind {a : Action σ α} {f : α → Action σ β} (hf : ∀ x, Keeps view (f x))
    (s : σ) :
    view ((a >>= f).exec s).2 = view (a.exec s).2 := by
  obtain ⟨r, t, h⟩ : ∃ r t, a.exec s = (r, t) := ⟨_, _, rfl⟩
  cases r with
  | ok x => rw [exec_bind_ok h, hf x t, h]
  | error e => rw [exec_bind_error h, h]

/-- What follows an action that keeps a view is shown of its failures and of its results
alone. -/
theorem Keeps.bind_cases {a : Action σ α} {f : α → Action σ β} {s : σ}
    {motive : Outcome β × σ → Prop} (ha : Keeps view a)
    (error : ∀ e t, view t = view s → motive (.error e, t))
    (ok : ∀ x t, a.exec s = (.ok x, t) → view t = view s → motive ((f x).exec t)) :
    motive ((a >>= f).exec s) := by
  obtain ⟨r, t, h⟩ : ∃ r t, a.exec s = (r, t) := ⟨_, _, rfl⟩
  have ht : view t = view s := by
    rw [← ha s, h]
  cases r with
  | ok x =>
    rw [exec_bind_ok h]
    exact ok x t h ht
  | error e =>
    rw [exec_bind_error h]
    exact error e t ht

theorem Keeps.ite {p : Prop} [Decidable p] {a b : Action σ α} (ha : Keeps view a)
    (hb : Keeps view b) : Keeps view (if p then a else b) := by
  split
  · exact ha
  · exact hb

/-- An action leads from states with a property to such states, also when it fails. -/
def Preserves (P : σ → Prop) (a : Action σ α) : Prop := ∀ s, P s → P (a.exec s).2

section

variable {P : σ → Prop}

theorem Preserves.of_keeps {Q : υ → Prop} {a : Action σ α} (h : Keeps view a) :
    Preserves (fun s => Q (view s)) a := by
  intro s hs
  rw [h s]
  exact hs

theorem Preserves.pure (x : α) : Preserves P (pure x : Action σ α) := fun _ h => h

theorem Preserves.lift (r : Outcome α) : Preserves P (lift r : Action σ α) := fun _ h => h

theorem Preserves.query (f : σ → Outcome α) : Preserves P (query f) := fun _ h => h

theorem Preserves.throw (e : Fault) : Preserves P (throw e : Action σ α) := fun _ h => h

theorem Preserves.bind {a : Action σ α} {f : α → Action σ β} (ha : Preserves P a)
    (hf : ∀ x, Preserves P (f x)) : Preserves P (a >>= f) := by
  intro s hs
  obtain ⟨r, t, h⟩ : ∃ r t, a.exec s = (r, t) := ⟨_, _, rfl⟩
  have ht : P t := by
    have hsecond := ha s hs
    rwa [h] at hsecond
  cases r with
  | ok x =>
    rw [exec_bind_ok h]
    exact hf x t ht
  | error e =>
    rw [exec_bind_error h]
    exact ht

theorem Preserves.map (f : α → β) {a : Action σ α} (ha : Preserves P a) :
    Preserves P (f <$> a) := by
  intro s hs
  rw [exec_map]
  exact ha s hs

theorem Preserves.ite {p : Prop} [Decidable p] {a b : Action σ α} (ha : Preserves P a)
    (hb : Preserves P b) : Preserves P (if p then a else b) := by
  split
  · exact ha
  · exact hb

end

def Yields (a : Action σ α) (Q : α → Prop) : Prop := ∀ s x, (a.exec s).1 = .ok x → Q x

section

variable {Q : α → Prop} {R : β → Prop}

theorem Yields.pure {x : α} (h : Q x) : Yields (pure x : Action σ α) Q := by
  intro s y hy
  cases hy
  exact h

theorem Yields.lift (r : Outcome α) : Yields (lift r : Action σ α) (r = .ok ·) := fun _ _ h => h

theorem Yields.any (a : Action σ α) : Yields a fun _ => True := fun _ _ _ => trivial

theorem Yields.throw (e : Fault) : Yields (throw e : Action σ α) Q := by
  intro s y hy
  cases hy

theorem Yields.bind {a : Action σ α} {f : α → Action σ β} (ha : Yields a Q)
    (hf : ∀ x, Q x → Yields (f x) R) : Yields (a >>= f) R := by
  intro s y hy
  obtain ⟨r, t, h⟩ : ∃ r t, a.exec s = (r, t) := ⟨_, _, rfl⟩
  cases r with
  | ok x =>
    have hx : Q x := ha s x (by rw [h])
    rw [exec_bind_ok h] at hy
    exact hf x hx t y hy
  | error e =>
    rw [exec_bind_error h] at hy
    cases hy

end

def Fails (a : Action σ α) (Q : Fault → Prop) : Prop := ∀ s, (a.exec s).1.Fails Q

section

variable {Q : Fault → Prop}

theorem Fails.pure (x : α) : Fails (pure x : Action σ α) Q := fun _ => .ok x

theorem Fails.lift {r : Outcome α} (h : r.Fails Q) : Fails (lift r : Action σ α) Q := fun _ => h

theorem Fails.query {f : σ → Outcome α} (h : ∀ s, (f s).Fails Q) : Fails (query f) Q := h

theorem Fails.throw {e : Fault} (h : Q e) : Fails (throw e : Action σ α) Q := fun _ => .error h

theorem Fails.bind_yields {a : Action σ α} {f : α → Action σ β} {R : α → Prop} (ha : Fails a Q)
    (hyields : Yields a R) (hf : ∀ x, R x → Fails (f x) Q) : Fails (a >>= f) Q := by
  intro s
  obtain ⟨r, t, h⟩ : ∃ r t, a.exec s = (r, t) := ⟨_, _, rfl⟩
  cases r with
  | ok x =>
    rw [exec_bind_ok h]
    exact hf x (hyields s x (by rw [h])) t
  | error e =>
    rw [exec_bind_error h]
    exact .error (ha s e (by rw [h]))

theorem Fails.bind {a : Action σ α} {f : α → Action σ β} (ha : Fails a Q)
    (hf : ∀ x, Fails (f x) Q) :
    Fails (a >>= f) Q :=
  ha.bind_yields (.any a) fun x _ => hf x

theorem Fails.lift_bind {r : Outcome α} {f : α → Action σ β} (hr : r = .ok x)
    (hf : Fails (f x) Q) :
    Fails (Action.lift r >>= f) Q := by
  intro s
  rw [hr, exec_bind_ok (exec_lift _ s)]
  exact hf s

theorem Fails.map (f : α → β) {a : Action σ α} (ha : Fails a Q) : Fails (f <$> a) Q := by
  intro s e h
  exact ha s e (by rw [exec_map_error (Prod.ext h rfl)])

end

theorem exec_bind_eq_ok {a : Action σ α} {f : α → Action σ β} {s t : σ} {y : β} :
    (a >>= f).exec s = (.ok y, t) ↔
      ∃ x s', a.exec s = (.ok x, s') ∧ (f x).exec s' = (.ok y, t) := by
  obtain ⟨r, s', h⟩ : ∃ r s', a.exec s = (r, s') := ⟨_, _, rfl⟩
  cases r with
  | ok x =>
    rw [exec_bind_ok h, h]
    constructor
    · intro hf
      exact ⟨x, s', rfl, hf⟩
    · rintro ⟨x', s'', he, hf⟩
      cases he
      exact hf
  | error e =>
    rw [exec_bind_error h, h]
    constructor
    · intro he
      cases he
    · rintro ⟨x', s'', he, _⟩
      cases he

theorem exec_bind_eq_error {a : Action σ α} {f : α → Action σ β} {s t : σ} {e : Fault} :
    (a >>= f).exec s = (.error e, t) ↔
      a.exec s = (.error e, t) ∨ ∃ x s', a.exec s = (.ok x, s') ∧
        (f x).exec s' = (.error e, t) := by
  obtain ⟨r, s', h⟩ : ∃ r s', a.exec s = (r, s') := ⟨_, _, rfl⟩
  cases r with
  | ok x =>
    rw [exec_bind_ok h, h]
    constructor
    · intro hf
      exact .inr ⟨x, s', rfl, hf⟩
    · rintro (he | ⟨x', s'', he, hf⟩)
      · cases he
      · cases he
        exact hf
  | error e' =>
    rw [exec_bind_error h, h]
    constructor
    · intro he
      cases he
      exact .inl rfl
    · rintro (he | ⟨x', s'', he, _⟩)
      · cases he
        rfl
      · cases he

end Action

end RedactableLedger
