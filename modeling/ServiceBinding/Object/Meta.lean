import ServiceBinding.Json.Rest

/-!
Metadata of API objects: names, labels, owners and the version that guards writes. Members are
absent rather than empty unless they were given. As in all modules of API objects, a structure has
all members of its kind: those that are looked into somewhere by type, and the others in `rest` as
they are. Its form in the API is written by `toJson` and read by `ofJson?`.
-/
namespace ServiceBinding.Object

/-- A reference to the object that another one belongs to. -/
structure OwnerRef where
  apiVersion : String
  kind : String
  name : String
  uid : String
  controller : Option Bool
  blockOwnerDeletion : Option Bool := none
deriving DecidableEq, Repr

/-- Times of creation and deletion and the fields that each writer manages, which the platform
keeps. -/
def metaNames : List String :=
  ["creationTimestamp", "deletionGracePeriodSeconds", "deletionTimestamp", "managedFields",
    "selfLink"]

/-- The metadata of an object; `space` is its namespace. -/
structure Meta where
  name : Option String := none
  generateName : Option String := none
  space : Option String := none
  uid : Option String := none
  labels : Option (Dict String) := none
  annotations : Option (Dict String) := none
  owners : Option (List OwnerRef) := none
  resourceVersion : Option String := none
  generation : Option Int64 := none
  finalizers : Option (List String) := none
  rest : Json.Rest metaNames := .empty
deriving DecidableEq

/-- The name of an object, or the stem its name is made from. -/
def Meta.displayName (m : Meta) : String := (m.name.or m.generateName).getD ""

def Meta.ownerList (m : Meta) : List OwnerRef := m.owners.getD []

/-- Whether some owner of the object has this identity. -/
def Meta.isOwnedBy (m : Meta) (uid : String) : Bool := m.ownerList.any (·.uid == uid)

/-- One condition of a selector on the values of a label. -/
structure LabelRule where
  key : String
  operator : String
  values : Option (List String) := none
deriving DecidableEq, Repr

/-- What labels an object must have to be selected. -/
structure LabelSelector where
  matchLabels : Option (Dict String) := none
  matchExpressions : Option (List LabelRule) := none
deriving DecidableEq

/-! ### JSON form -/

def OwnerRef.toJson (r : OwnerRef) : Json :=
  .record [
    ("apiVersion", some (.str r.apiVersion)),
    ("blockOwnerDeletion", r.blockOwnerDeletion.map .bool),
    ("controller", r.controller.map .bool),
    ("kind", some (.str r.kind)),
    ("name", some (.str r.name)),
    ("uid", some (.str r.uid))]

def OwnerRef.ofJson? (j : Json) : Option OwnerRef := do
  let m ← j.members?
  return {
    apiVersion := ← Json.lenient Json.text? "" (m "apiVersion")
    kind := ← Json.lenient Json.text? "" (m "kind")
    name := ← Json.lenient Json.text? "" (m "name")
    uid := ← Json.lenient Json.text? "" (m "uid")
    controller := ← Json.optional Json.bool? (m "controller")
    blockOwnerDeletion := ← Json.optional Json.bool? (m "blockOwnerDeletion") }

def Meta.toJson (m : Meta) : Json :=
  .recordWith m.rest [
    ("annotations", m.annotations.map .textDict),
    ("finalizers", m.finalizers.map .texts),
    ("generateName", m.generateName.map .str),
    ("generation", m.generation.map .int64),
    ("labels", m.labels.map .textDict),
    ("name", m.name.map .str),
    ("namespace", m.space.map .str),
    ("ownerReferences", m.owners.map (.ofList OwnerRef.toJson)),
    ("resourceVersion", m.resourceVersion.map .str),
    ("uid", m.uid.map .str)]

def Meta.ofJson? (j : Json) : Option Meta := do
  let m ← j.members?
  return {
    name := ← Json.optional Json.text? (m "name")
    generateName := ← Json.optional Json.text? (m "generateName")
    space := ← Json.optional Json.text? (m "namespace")
    uid := ← Json.optional Json.text? (m "uid")
    labels := ← Json.optional (Json.dict? Json.text?) (m "labels")
    annotations := ← Json.optional (Json.dict? Json.text?) (m "annotations")
    owners := ← Json.optional (Json.list? OwnerRef.ofJson?) (m "ownerReferences")
    resourceVersion := ← Json.optional Json.text? (m "resourceVersion")
    generation := ← Json.optional Json.int64? (m "generation")
    finalizers := ← Json.optional (Json.list? Json.text?) (m "finalizers")
    rest := ← Json.rest? metaNames m }

def LabelRule.toJson (r : LabelRule) : Json :=
  .record [
    ("key", some (.str r.key)),
    ("operator", some (.str r.operator)),
    ("values", r.values.map .texts)]

def LabelRule.ofJson? (j : Json) : Option LabelRule := do
  let m ← j.members?
  return {
    key := ← Json.lenient Json.text? "" (m "key")
    operator := ← Json.lenient Json.text? "" (m "operator")
    values := ← Json.optional (Json.list? Json.text?) (m "values") }

def LabelSelector.toJson (s : LabelSelector) : Json :=
  .record [
    ("matchExpressions", s.matchExpressions.map (.ofList LabelRule.toJson)),
    ("matchLabels", s.matchLabels.map .textDict)]

def LabelSelector.ofJson? (j : Json) : Option LabelSelector := do
  let m ← j.members?
  return {
    matchLabels := ← Json.optional (Json.dict? Json.text?) (m "matchLabels")
    matchExpressions := ← Json.optional (Json.list? LabelRule.ofJson?) (m "matchExpressions") }

end ServiceBinding.Object
