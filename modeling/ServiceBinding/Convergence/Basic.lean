import ServiceBinding.Convergence.Comparison
import ServiceBinding.Convergence.Ownership
import ServiceBinding.Convergence.Store

/-!
Bringing one stored object to the state wanted. An absent object is created; one that belongs to
somebody else is refused; any other is replaced if it differs. The inverse deletes an object only
if its owner asks for it. Nothing is tried twice: a refused call ends the attempt.
-/
namespace ServiceBinding.Convergence
open Object
variable {σ α : Type} [Resource α]

/-- What an attempt to bring an object to a wanted state did. -/
inductive Outcome where
  | created
  | updated
  | unchanged
deriving DecidableEq, Repr

/-- What an attempt to remove an object did. -/
inductive Removal where
  | deleted
  | absent
  /-- The object belongs to somebody else and was left alone. -/
  | notOwned
deriving DecidableEq, Repr

/-- Brings the object of a name to the state wanted. -/
def ensure (store : Store σ α) (compare : Comparer α) (space name : String) (wanted : α) :
    Action σ Outcome := do
  match ← store.get space name with
  | none =>
    store.create space wanted
    return .created
  | some found =>
    if conflicts (Resource.metadata wanted) (Resource.metadata found) then
      throw (.ownershipConflict (Resource.kind α) space name)
    else
      match compare wanted found with
      | .equal => return .unchanged
      | .differs updated =>
        store.replace space name updated
        return .updated

/-- Deletes the object of a name if it belongs to the owner. -/
def removeOwned (store : Store σ α) (space name uid : String) : Action σ Removal := do
  match ← store.get space name with
  | none => return .absent
  | some found =>
    if (Resource.metadata found).isOwnedBy uid then
      store.delete space name
      return .deleted
    else return .notOwned

end ServiceBinding.Convergence
