import ServiceBinding.Json.Basic

/-!
Containment of one JSON value in another: everything the first one sets has the same value in
the second. Members that are null or an empty container may be missing, since the platform drops
them on write. Arrays must agree in length, so that an entry taken out of a list is seen.
-/
namespace ServiceBinding.Json

mutual
/-- Whether every field set in the first value has the same value in the second. -/
def isContained : Json → Json → Bool
  | .null, _ => true
  | .obj wanted, .obj found => membersContained wanted found
  | .arr wanted, .arr found => itemsContained wanted found
  | .bool a, .bool b => a == b
  | .num a, .num b => a.same b
  | .str a, .str b => a == b
  | _, _ => false

/-- Containment of every member in the one of the same key. -/
def membersContained : List (String × Json) → List (String × Json) → Bool
  | [], _ => true
  | (key, value) :: rest, found =>
    (match lookup key found with
      | some other => isContained value other
      | none => value.isNull || value.isEmptyContainer) && membersContained rest found

/-- Containment of every item in the one at the same place. -/
def itemsContained : List Json → List Json → Bool
  | [], [] => true
  | a :: as, b :: bs => isContained a b && itemsContained as bs
  | _, _ => false
end

end ServiceBinding.Json
