import ServiceBinding.Object.Resource
import ServiceBinding.Text.Base64

/-!
Secrets and config maps: objects whose content is a dictionary of byte strings or texts.
-/
namespace ServiceBinding.Object

def bytesToJson (d : Dict Bytes) : Json := .ofDict (fun b => .str (Text.Base64.encode b)) d

/-- A byte string; null reads as one without bytes. -/
def bytesOfJson? : Json → Option Bytes
  | .null => some []
  | .str s => Text.Base64.decode? s
  | _ => none

structure Secret where
  metadata : Meta := {}
  type : Option String := none
  data : Option (Dict Bytes) := none
  stringData : Option (Dict String) := none
  immutable : Option Bool := none
deriving DecidableEq

def Secret.toJson (s : Secret) : Json :=
  .record [
    ("apiVersion", some (.str "v1")),
    ("data", s.data.map bytesToJson),
    ("immutable", s.immutable.map .bool),
    ("kind", some (.str "Secret")),
    ("metadata", some s.metadata.toJson),
    ("stringData", s.stringData.map .textDict),
    ("type", s.type.map .str)]

def Secret.ofJson? (j : Json) : Option Secret := do
  let m ← typedMembers? "v1" "Secret" j
  return {
    metadata := ← Json.lenient Meta.ofJson? {} (m "metadata")
    type := ← Json.optional Json.text? (m "type")
    data := ← Json.optional (Json.dict? bytesOfJson?) (m "data")
    stringData := ← Json.optional (Json.dict? Json.text?) (m "stringData")
    immutable := ← Json.optional Json.bool? (m "immutable") }

instance : Resource Secret where
  kind := "Secret"
  apiVersion := "v1"
  metadata := Secret.metadata
  withMetadata s m := { s with metadata := m }
  toJson := Secret.toJson
  ofJson? := Secret.ofJson?
  metadata_withMetadata _ _ := rfl
  withMetadata_metadata _ := rfl
  withMetadata_withMetadata _ _ _ := rfl

structure ConfigMap where
  metadata : Meta := {}
  data : Option (Dict String) := none
  binaryData : Option (Dict Bytes) := none
  immutable : Option Bool := none
deriving DecidableEq

def ConfigMap.toJson (c : ConfigMap) : Json :=
  .record [
    ("apiVersion", some (.str "v1")),
    ("binaryData", c.binaryData.map bytesToJson),
    ("data", c.data.map .textDict),
    ("immutable", c.immutable.map .bool),
    ("kind", some (.str "ConfigMap")),
    ("metadata", some c.metadata.toJson)]

def ConfigMap.ofJson? (j : Json) : Option ConfigMap := do
  let m ← typedMembers? "v1" "ConfigMap" j
  return {
    metadata := ← Json.lenient Meta.ofJson? {} (m "metadata")
    data := ← Json.optional (Json.dict? Json.text?) (m "data")
    binaryData := ← Json.optional (Json.dict? bytesOfJson?) (m "binaryData")
    immutable := ← Json.optional Json.bool? (m "immutable") }

instance : Resource ConfigMap where
  kind := "ConfigMap"
  apiVersion := "v1"
  metadata := ConfigMap.metadata
  withMetadata c m := { c with metadata := m }
  toJson := ConfigMap.toJson
  ofJson? := ConfigMap.ofJson?
  metadata_withMetadata _ _ := rfl
  withMetadata_metadata _ := rfl
  withMetadata_withMetadata _ _ _ := rfl

end ServiceBinding.Object
