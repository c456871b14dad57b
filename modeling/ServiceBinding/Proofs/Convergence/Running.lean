import ServiceBinding.Convergence.Store

/-!
Running actions. `Action.exec` gives the result of an action and the state it leaves, and there is
one equation for each way in which actions are made. Stores and readers may have states of their
own: an action on one part of a pair leaves the other part alone (`onLeft`, `onRight`).
-/
namespace ServiceBinding.Convergence
variable {σ τ α β : Type}

namespace Action

/-- The result of an action in a state, and the state that it leaves. -/
def exec (a : Action σ α) (s : σ) : Result α × σ := StateT.run (ExceptT.run a) s

@[simp] theorem exec_pure (x : α) (s : σ) : (pure x : Action σ α).exec s = (.ok x, s) := rfl

@[simp] theorem exec_throw (e : Error) (s : σ) : (throw e : Action σ α).exec s = (.error e, s) :=
  rfl

@[simp] theorem exec_lift (r : Result α) (s : σ) : (liftM r : Action σ α).exec s = (r, s) := by
  cases r <;> rfl

@[simp] theorem exec_run (m : StateM σ α) (s : σ) :
    (liftM m : Action σ α).exec s = (.ok (m.run s).1, (m.run s).2) := rfl

@[simp] theorem exec_get (s : σ) : (get : Action σ σ).exec s = (.ok s, s) := rfl

@[simp] theorem exec_set (s t : σ) : (set t : Action σ PUnit).exec s = (.ok ⟨⟩, t) := rfl

theorem exec_bind (a : Action σ α) (f : α → Action σ β) (s : σ) :
    (a >>= f).exec s =
      match a.exec s with
      | (.ok x, t) => (f x).exec t
      | (.error e, t) => (.error e, t) := by
  simp only [exec, ExceptT.run_bind, StateT.run_bind]
  generalize (ExceptT.run a).run s = r
  obtain ⟨x, t⟩ := r
  cases x <;> rfl

theorem exec_bind_pure (a : Action σ α) (f : α → β) (s : σ) :
    (a >>= fun x => pure (f x)).exec s = ((a.exec s).1.map f, (a.exec s).2) := by
  rw [exec_bind]
  generalize a.exec s = r
  obtain ⟨x, t⟩ := r
  cases x <;> rfl

/-- A sequence gives a value if both of its parts do. -/
theorem exec_bind_ok {a : Action σ α} {f : α → Action σ β} {s t : σ} {y : β} :
    (a >>= f).exec s = (.ok y, t) ↔
      ∃ x u, a.exec s = (.ok x, u) ∧ (f x).exec u = (.ok y, t) := by
  rw [exec_bind]
  obtain ⟨e | x, u⟩ := a.exec s
  · simp
  · constructor
    · exact fun h => ⟨x, u, rfl, h⟩
    · rintro ⟨_, _, ⟨⟩, h⟩
      exact h

theorem exists_exec_ok {a : Action σ α} {s : σ} (h : (a.exec s).1.isOk = true) :
    ∃ x t, a.exec s = (.ok x, t) := by
  generalize a.exec s = u at h
  obtain ⟨e | x, t⟩ := u
  · cases h
  · exact ⟨x, t, rfl⟩

/-! ### Parts of the state -/

/-- The action on the first part of a pair. -/
def onLeft (a : Action σ α) : Action (σ × τ) α :=
  ExceptT.mk fun s => ((a.exec s.1).1, ((a.exec s.1).2, s.2))

/-- The action on the second part of a pair. -/
def onRight (a : Action τ α) : Action (σ × τ) α :=
  ExceptT.mk fun s => ((a.exec s.2).1, (s.1, (a.exec s.2).2))

@[simp] theorem exec_onLeft (a : Action σ α) (s : σ × τ) :
    a.onLeft.exec s = ((a.exec s.1).1, ((a.exec s.1).2, s.2)) := rfl

@[simp] theorem exec_onRight (a : Action τ α) (s : σ × τ) :
    a.onRight.exec s = ((a.exec s.2).1, (s.1, (a.exec s.2).2)) := rfl

end Action

/-- The store whose state is the first part of a pair. -/
def Store.onLeft (store : Store σ α) : Store (σ × τ) α where
  get space name := (store.get space name).onLeft
  list space selector := (store.list space selector).onLeft
  create space a := (store.create space a).onLeft
  replace space name a := (store.replace space name a).onLeft
  delete space name := (store.delete space name).onLeft

end ServiceBinding.Convergence
