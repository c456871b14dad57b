import ServiceBinding.Object.Meta

/-!
Who an object belongs to. Owners are told apart by their identity. An object without owners is
free for everyone; one with owners belongs to them alone.
-/
namespace ServiceBinding.Convergence
open Object

/-- Whether an object belongs to others than the owners of the object wanted in its place. -/
def conflicts (wanted found : Meta) : Bool :=
  !wanted.ownerList.isEmpty && !found.ownerList.isEmpty &&
    !wanted.ownerList.any fun r => found.isOwnedBy r.uid

end ServiceBinding.Convergence
