import ServiceBinding.Dict
import ServiceBinding.Json.Double

/-!
JSON values. Numbers keep the difference between integers and doubles: `1` and `1.0` are
different values. The members of an object are listed in increasing key order, each key once,
which every constructor function here takes care of.
-/
namespace ServiceBinding

/-- A JSON number: an integer of up to 64 bits, or a double. -/
inductive Json.Number where
  | int (n : Int)
  | double (d : Json.Double)
deriving DecidableEq, Repr

inductive Json where
  | null
  | bool (b : Bool)
  | num (n : Json.Number)
  | str (s : String)
  | arr (items : List Json)
  | obj (members : List (String × Json))
deriving Inhabited

namespace Json

/-- Equality of numbers; doubles are compared by value. -/
def Number.same : Number → Number → Bool
  | .int a, .int b => a == b
  | .double a, .double b => Double.same a b
  | _, _ => false

def int (n : Int) : Json := .num (.int n)

/-- The value under a key of a list of members. -/
def lookup (key : String) (members : List (String × Json)) : Option Json :=
  (members.find? (·.1 == key)).map (·.2)

/-- The value under a key, if this is an object that has it. -/
def get? (j : Json) (key : String) : Option Json :=
  match j with
  | .obj members => lookup key members
  | _ => none

/-- The object of some members, the last one of a key winning. -/
def ofMembers (members : List (String × Json)) : Json := .obj (Dict.ofList members).entries

/-- The object of a dictionary. -/
def ofDict (f : α → Json) (d : Dict α) : Json := .obj (d.entries.map fun e => (e.1, f e.2))

/-- The object of the members that are there, listed by the caller in increasing key order. -/
def record (members : List (String × Option Json)) : Json :=
  .obj (members.filterMap fun m => m.2.map (m.1, ·))

/-- The array of a list. -/
def ofList (f : α → Json) (l : List α) : Json := .arr (l.map f)

/-- Whether this is an object or array without content. -/
def isEmptyContainer : Json → Bool
  | .obj members => members.isEmpty
  | .arr items => items.isEmpty
  | _ => false

def isNull : Json → Bool
  | .null => true
  | _ => false

/-! ### Equality -/

mutual
def equals : Json → Json → Bool
  | .null, .null => true
  | .bool a, .bool b => a == b
  | .num a, .num b => a == b
  | .str a, .str b => a == b
  | .arr as, .arr bs => itemsEqual as bs
  | .obj as, .obj bs => membersEqual as bs
  | _, _ => false

def itemsEqual : List Json → List Json → Bool
  | [], [] => true
  | a :: as, b :: bs => equals a b && itemsEqual as bs
  | _, _ => false

def membersEqual : List (String × Json) → List (String × Json) → Bool
  | [], [] => true
  | (key, a) :: as, (other, b) :: bs => key == other && equals a b && membersEqual as bs
  | _, _ => false
end

mutual
theorem equals_iff : ∀ a b : Json, equals a b = true ↔ a = b
  | .null, b | .bool _, b | .num _, b | .str _, b => by cases b <;> simp [equals]
  | .arr as, b => by cases b <;> simp [equals, itemsEqual_iff as]
  | .obj as, b => by cases b <;> simp [equals, membersEqual_iff as]

theorem itemsEqual_iff : ∀ as bs : List Json, itemsEqual as bs = true ↔ as = bs
  | [], bs => by cases bs <;> simp [itemsEqual]
  | a :: as, bs => by cases bs <;> simp [itemsEqual, equals_iff a, itemsEqual_iff as]

theorem membersEqual_iff : ∀ as bs : List (String × Json), membersEqual as bs = true ↔ as = bs
  | [], bs => by cases bs <;> simp [membersEqual]
  | (_, a) :: as, bs => by
    cases bs <;> simp [membersEqual, equals_iff a, membersEqual_iff as, Prod.ext_iff]
end

instance : DecidableEq Json := fun a b => decidable_of_iff _ (equals_iff a b)

end Json

end ServiceBinding
