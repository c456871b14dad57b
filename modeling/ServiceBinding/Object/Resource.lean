import ServiceBinding.Object.Meta

/-!
What the kinds of stored objects have in common: a name and version in the API, metadata that can
be read and replaced, and a JSON form.
-/
namespace ServiceBinding.Object

/-- A kind of object that the cluster stores. -/
class Resource (α : Type) where
  /-- The kind's name. -/
  kind : String
  /-- The version under which the kind is served. -/
  apiVersion : String
  metadata : α → Meta
  withMetadata : α → Meta → α
  toJson : α → Json
  ofJson? : Json → Option α
  metadata_withMetadata : ∀ a m, metadata (withMetadata a m) = m
  withMetadata_metadata : ∀ a, withMetadata a (metadata a) = a
  withMetadata_withMetadata : ∀ a m n, withMetadata (withMetadata a m) n = withMetadata a n

/-- Whether a member that names the kind or version of an object, if there is one, has the right
text. -/
def agrees (expected : String) : Option Json → Bool
  | none => true
  | some (.str s) => s == expected
  | some _ => false

/-- The members of an object of a kind; the kind and version may be left out. -/
def typedMembers? (apiVersion kind : String) (j : Json) : Option Json.Members := do
  let m ← j.members?
  if agrees apiVersion (m "apiVersion") && agrees kind (m "kind") then some m else none

/-- A number or a text. -/
inductive IntOrText where
  | int (n : Int32)
  | text (s : String)
deriving DecidableEq, Repr

def IntOrText.toJson : IntOrText → Json
  | .int n => .int32 n
  | .text s => .str s

def IntOrText.ofJson? (j : Json) : Option IntOrText :=
  match j with
  | .str s => some (.text s)
  | j => j.int32?.map .int

end ServiceBinding.Object
