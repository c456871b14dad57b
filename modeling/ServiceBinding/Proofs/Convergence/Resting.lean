import ServiceBinding.Proofs.Convergence.Attempts

/-!
Places at rest. An attempt that has gone through leaves its place in a state (`Rests`, `Gone`) in
which the same attempt, made again, finds nothing to do: it looks, and that is all.
-/
namespace ServiceBinding.Convergence
open Cluster Object
variable {α : Type} [Stored α]

/-- Whether an attempt to bring a place to a wanted state would find nothing to do. -/
def Rests (compare : Comparer α) (wanted : α) (found : Option α) : Prop :=
  ∃ a, found = some a ∧
    conflicts (Resource.metadata wanted) (Resource.metadata a) = false ∧
      compare wanted a = .equal

/-- Whether an attempt to remove the owner's object from a place would find nothing to do. -/
def Gone (uid : String) (found : Option α) : Prop :=
  ∀ a, found = some a → (Resource.metadata a).isOwnedBy uid = false

variable {faulty : Prop} {space name uid : String} {before after : Table α} {verbs : List Verb}

theorem Ensured.rests {compare : Comparer α} (applies : Applies compare)
    (converges : Converges compare) {wanted : α} {o : Outcome}
    (h : Ensured faulty compare space name wanted before (.ok o) verbs after) :
    Rests compare wanted (after.get? space name) := by
  cases h with
  | created absent =>
    refine ⟨_, by rw [get?_createdIn, if_pos ⟨rfl, rfl⟩], ?_, converges.created _ _⟩
    rw [Table.metadata_withVersion]
    exact conflicts_self _ _
  | unchanged there free equal => exact ⟨_, there, free, equal⟩
  | updated there free differs =>
    refine ⟨_, by rw [get?_replacedIn, if_pos ⟨rfl, rfl⟩], ?_, converges.updated _ _ _ _ differs⟩
    rw [Table.metadata_withVersion, applies _ _ _ differs]
    exact conflicts_applyMeta _ _ _

theorem Ensured.idle {compare : Comparer α} {wanted : α} {x : Result Outcome}
    (rests : Rests compare wanted (before.get? space name))
    (h : Ensured False compare space name wanted before x verbs after) :
    x = .ok .unchanged ∧ verbs = [.get] ∧ after = before := by
  obtain ⟨a, hget, hfree, hequal⟩ := rests
  cases h with
  | unchanged => exact ⟨rfl, rfl, rfl⟩
  | struck h | notCreated h | notUpdated h => exact h.elim
  | created absent => cases absent.symm.trans hget
  | refused there alien =>
    cases there.symm.trans hget
    cases alien.symm.trans hfree
  | updated there _ differs =>
    cases there.symm.trans hget
    cases differs.symm.trans hequal

theorem Removed.gone {o : Removal} (h : Removed faulty space name uid before (.ok o) verbs after) :
    Gone uid (after.get? space name) := by
  cases h with
  | absent absent =>
    intro a ha
    cases absent.symm.trans ha
  | notOwned there alien =>
    intro a ha
    cases there.symm.trans ha
    exact alien
  | deleted there owned =>
    intro a ha
    rw [Table.get?_delete, if_pos ⟨rfl, rfl⟩] at ha
    cases ha

theorem Removed.idle {x : Result Removal} (gone : Gone uid (before.get? space name))
    (h : Removed False space name uid before x verbs after) :
    (∃ o, x = .ok o) ∧ verbs = [.get] ∧ after = before := by
  cases h with
  | absent | notOwned => exact ⟨⟨_, rfl⟩, rfl, rfl⟩
  | struck h | notDeleted h => exact h.elim
  | deleted there owned => cases (gone _ there).symm.trans owned

end ServiceBinding.Convergence
