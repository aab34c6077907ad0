import RedactableLedger.Fault

namespace RedactableLedger

abbrev Action (σ α : Type) := ExceptT Fault (StateM σ) α

namespace Action

def exec (a : Action σ α) (s : σ) : Outcome α × σ := a.run.run s

def of (f : σ → Outcome α × σ) : Action σ α := ExceptT.mk f

def lift (r : Outcome α) : Action σ α := of fun s => (r, s)

def query (f : σ → Outcome α) : Action σ α := of fun s => (f s, s)

def change (f : σ → σ) : Action σ Unit := of fun s => (.ok (), f s)

/-- A computation on a part of the state. -/
def on (part : σ → τ) (restore : τ → σ → σ) (a : Action τ α) : Action σ α := of fun s =>
  let (r, t) := a.exec (part s)
  (r, restore t s)

def onState (part : σ → τ) (restore : τ → σ → σ) (a : StateM τ α) : Action σ α := of fun s =>
  let (r, t) := a.run (part s)
  (.ok r, restore t s)

@[simp] theorem exec_of (f : σ → Outcome α × σ) (s : σ) : (of f).exec s = f s := rfl

@[simp] theorem exec_lift (r : Outcome α) (s : σ) : (lift r : Action σ α).exec s = (r, s) := rfl

@[simp] theorem exec_query (f : σ → Outcome α) (s : σ) : (query f).exec s = (f s, s) := rfl

@[simp] theorem exec_change (f : σ → σ) (s : σ) : (change f).exec s = (.ok (), f s) := rfl

@[simp] theorem exec_pure (a : α) (s : σ) : (pure a : Action σ α).exec s = (.ok a, s) := rfl

@[simp] theorem exec_throw (e : Fault) (s : σ) :
    (throw e : Action σ α).exec s = (.error e, s) := rfl

theorem exec_bind (a : Action σ α) (f : α → Action σ β) (s : σ) :
    (a >>= f).exec s =
      match a.exec s with
      | (.ok x, t) => (f x).exec t
      | (.error e, t) => (.error e, t) := by
  simp only [exec, bind, ExceptT.bind, ExceptT.mk, ExceptT.run, StateT.bind, StateT.run,
    ExceptT.bindCont]
  cases h : a s with
  | mk r t => cases r <;> rfl

end Action

end RedactableLedger
