import ServiceBinding.Convergence.Store
import ServiceBinding.Object.Resource
import ServiceBinding.Text.Numeral
import ServiceBinding.Text.Search

/-!
The stored objects of one kind, by namespace and name, with the rules of the API server that a
client can notice: a taken name cannot be created again, a replacement must carry the version that
it replaces, and every write gives an object a new version. A refused call changes nothing.
-/
namespace ServiceBinding.Cluster
open Object
variable {α : Type}

/-- Stored objects, first by namespace and then by name, and the number of writes so far. -/
structure Table (α : Type) where
  spaces : Dict (Dict α) := {}
  writes : Nat := 0

namespace Table

/-- The objects of a namespace. -/
def inSpace (t : Table α) (space : String) : Dict α := (t.spaces.get? space).getD {}

/-- The object of a namespace and name. -/
def get? (t : Table α) (space name : String) : Option α := (t.inSpace space).get? name

/-- The table with one object put in its place. -/
def put (t : Table α) (space name : String) (a : α) : Table α :=
  { t with spaces := t.spaces.insert space ((t.inSpace space).insert name a) }

/-- The table without an object. -/
def drop (t : Table α) (space name : String) : Table α :=
  { t with spaces := t.spaces.insert space ((t.inSpace space).erase name) }

/-- The table with one more write counted. -/
def counted (t : Table α) : Table α := { t with writes := t.writes + 1 }

/-- All objects with their namespaces and names, in order. -/
def entries (t : Table α) : List (String × String × α) :=
  t.spaces.entries.flatMap fun s => s.2.entries.map fun e => (s.1, e.1, e.2)

/-! ### Selecting -/

/-- The pairs that a label selector asks for. -/
def selectorPairs (selector : String) : List (String × String) :=
  (Text.split selector ",").filterMap (Text.cutAt? '=')

/-- Whether the labels of an object have all pairs of a selector. -/
def isSelected (pairs : List (String × String)) (m : Meta) : Bool :=
  pairs.all fun pair => (m.labels.getD {}).get? pair.1 == some pair.2

/-- The objects of a namespace that match a selector, by name. -/
def select [Resource α] (t : Table α) (space selector : String) : List α :=
  ((t.inSpace space).entries.map (·.2)).filter fun a =>
    isSelected (selectorPairs selector) (Resource.metadata a)

/-! ### Writing -/

def version [Resource α] (a : α) : Option String := (Resource.metadata a).resourceVersion

def withVersion [Resource α] (a : α) (version : String) : α :=
  Resource.withMetadata a { Resource.metadata a with resourceVersion := some version }

def nextVersion (version : Option String) : String :=
  toString ((version.bind Text.word64?).getD 0 + 1)

/-- The name that an object says it has. -/
def ownName [Resource α] (a : α) : String := (Resource.metadata a).name.getD ""

/-- Puts an object where its metadata says, in its first version, without counting a write. -/
def seed [Resource α] (t : Table α) (space : String) (a : α) : Table α :=
  t.put space (ownName a) (withVersion a "1")

/-- Stores a new object, unless its name is taken. -/
def create [Resource α] (t : Table α) (space : String) (a : α) : Result (Table α) :=
  match t.get? space (ownName a) with
  | some _ => .error (.api 409 "AlreadyExists" (ownName a ++ " already exists"))
  | none => .ok (t.put space (ownName a) (withVersion a "1")).counted

/-- Replaces an object, if it still has the version that the new one carries. -/
def replace [Resource α] (t : Table α) (space name : String) (a : α) : Result (Table α) :=
  match t.get? space name with
  | none => .error (.api 404 "NotFound" (name ++ " not found"))
  | some current =>
    if version current ≠ version a then .error (.api 409 "Conflict" "resourceVersion mismatch")
    else .ok (t.put space name (withVersion a (nextVersion (version current)))).counted

/-- Deletes an object; deleting an absent one is no write. -/
def delete (t : Table α) (space name : String) : Table α :=
  match t.get? space name with
  | none => t
  | some _ => (t.drop space name).counted

end Table

end ServiceBinding.Cluster
