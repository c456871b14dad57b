import ServiceBinding.Error

/-!
Merging one contribution into a shared value. A merge that fails keeps what it changed before it
failed, so its result is always a value, with the outcome beside it.
-/
namespace ServiceBinding

/-- What a merge leaves, and whether it went through. -/
structure Merged (α : Type) where
  value : α
  outcome : Result Unit

namespace Merged
variable {α β : Type}

/-- A merge that went through. -/
def done (value : α) : Merged α := ⟨value, .ok ()⟩

/-- A merge that failed. -/
def failed (value : α) (e : Error) : Merged α := ⟨value, .error e⟩

/-- What the merge of a part leaves of the whole. -/
def within (whole : α → β) (m : Merged α) : Merged β := ⟨whole m.value, m.outcome⟩

/-- A second merge, unless the first one failed. -/
def andThen (m : Merged α) (next : α → Merged α) : Merged α :=
  match m.outcome with
  | .ok () => next m.value
  | .error _ => m

/-- One merge for each contribution, up to the first that fails. -/
def forEach (merge : α → β → Merged α) (value : α) : List β → Merged α
  | [] => done value
  | b :: rest => (merge value b).andThen fun value => forEach merge value rest

/-- The value, if the merge went through. -/
def toResult (m : Merged α) : Result α := m.outcome.map fun _ => m.value

end Merged

/-- The list with its first element of a kind replaced. -/
def replaceFirst (p : α → Bool) (new : α) : List α → List α
  | [] => []
  | a :: rest => if p a then new :: rest else a :: replaceFirst p new rest

end ServiceBinding
