import ServiceBinding.Error

/-!
Access to the stored objects of one kind, as the operator sees it: five calls on a state that it
knows nothing about. The state may hold anything behind the calls: a cluster, its other writers, a
list of failures to come.
-/
namespace ServiceBinding.Convergence

/-- A computation on a state that may fail; a failure keeps what was done before it. -/
abbrev Action (σ : Type) := ExceptT Error (StateM σ)

/-- The calls on the stored objects of one kind. -/
structure Store (σ α : Type) where
  /-- The object of a namespace and name, if there is one. -/
  get : (space name : String) → Action σ (Option α)
  /-- The objects of a namespace that match a label selector, `key=value` pairs and commas. -/
  list : (space selector : String) → Action σ (List α)
  /-- Stores a new object. -/
  create : (space : String) → α → Action σ Unit
  /-- Replaces an object, which must still have the version that the new one carries. -/
  replace : (space name : String) → α → Action σ Unit
  /-- Deletes an object, if there is one. -/
  delete : (space name : String) → Action σ Unit

end ServiceBinding.Convergence
