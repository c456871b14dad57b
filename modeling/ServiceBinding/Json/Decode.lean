import ServiceBinding.Bytes
import ServiceBinding.Json.Basic

/-!
Typed readings of JSON values. A reading of a record looks its members up by name; whether a
member may be missing or null is said member by member. Readings never convert between texts,
numbers and booleans.
-/
namespace ServiceBinding.Json

def text? : Json → Option String
  | .str s => some s
  | _ => none

def bool? : Json → Option Bool
  | .bool b => some b
  | _ => none

def int32? : Json → Option Int32
  | .num (.int n) =>
    if Int32.minValue.toInt ≤ n ∧ n ≤ Int32.maxValue.toInt then some (Int32.ofInt n) else none
  | _ => none

def int64? : Json → Option Int64
  | .num (.int n) =>
    if Int64.minValue.toInt ≤ n ∧ n ≤ Int64.maxValue.toInt then some (Int64.ofInt n) else none
  | _ => none

/-- A list, item by item. -/
def list? (item : Json → Option α) : Json → Option (List α)
  | .arr items => items.mapM item
  | _ => none

/-- The members of a dictionary, value by value. -/
def readMembers? (value : Json → Option α) (members : List (String × Json)) :
    Option (List (String × α)) :=
  members.mapM fun m => do return (m.1, ← value m.2)

/-- A dictionary, value by value. -/
def dict? (value : Json → Option α) : Json → Option (Dict α)
  | .obj members => do return Dict.ofList (← readMembers? value members)
  | _ => none

/-! ### Members of records -/

/-- The members of a record by name. -/
abbrev Members := String → Option Json

/-- The members of a record written as an object. -/
def members? : Json → Option Members
  | .obj members => some (lookup · members)
  | _ => none

/-- The members of a record written as an object, or as an array that gives them in order, the
last ones possibly missing. -/
def ordered? (names : List String) : Json → Option Members
  | .obj members => some (lookup · members)
  | .arr items =>
    if items.length ≤ names.length then some (lookup · (names.zip items)) else none
  | _ => none

/-- A member that must be there. -/
def required (read : Json → Option α) (member : Option Json) : Option α := member.bind read

/-- A member that may be missing or null. -/
def optional (read : Json → Option α) : Option Json → Option (Option α)
  | none => some none
  | some .null => some none
  | some j => (read j).map some

/-- A member that may be missing, but not null. -/
def defaulted (read : Json → Option α) (fallback : α) : Option Json → Option α
  | none => some fallback
  | some j => read j

/-- A member that may be missing or null and has a value all the same. -/
def lenient (read : Json → Option α) (fallback : α) (member : Option Json) : Option α :=
  (optional read member).map (·.getD fallback)

/-! ### Writing -/

def texts (l : List String) : Json := ofList .str l

def textDict (d : Dict String) : Json := ofDict .str d

def int32 (n : Int32) : Json := .int n.toInt

def int64 (n : Int64) : Json := .int n.toInt

end ServiceBinding.Json
