import ServiceBinding.Instance.Basic
import ServiceBinding.Json.Decode

/-!
The JSON form of declarations. Members whose value is the empty one are left out where that is
what a missing member means, so that reading gives back what was written. A record may also be
read from an array of its members in declaration order.
-/
namespace ServiceBinding

/-- A list, unless it is empty. -/
def unlessEmpty (write : α → Json) (l : List α) : Option Json :=
  if l.isEmpty then none else some (.ofList write l)

def StoreKind.toJson (k : StoreKind) : Json := .str k.name

def StoreKind.ofName? (name : String) : Option StoreKind :=
  if name = "TrustStore" then some .trustStore
  else if name = "KeyStore" then some .keyStore
  else none

/-- The flavour that a JSON value gives: its name, or an object whose only member has that name
and no content. -/
def StoreKind.ofJson? : Json → Option StoreKind
  | .str name => ofName? name
  | .obj [(name, .null)] => ofName? name
  | _ => none

def StoreTransform.toJson (t : StoreTransform) : Json :=
  .record [
    ("cert", some (.str t.cert)),
    ("passEnv", some (.str t.passEnv)),
    ("password", some (.str t.password)),
    ("privateKey", t.privateKey.map .str),
    ("store", some (.str t.store)),
    ("type", some t.kind.toJson)]

def StoreTransform.ofJson? (j : Json) : Option StoreTransform := do
  let m ← j.ordered? ["type", "cert", "privateKey", "store", "password", "passEnv"]
  return {
    kind := ← Json.required StoreKind.ofJson? (m "type")
    cert := ← Json.required Json.text? (m "cert")
    privateKey := ← Json.optional Json.text? (m "privateKey")
    store := ← Json.required Json.text? (m "store")
    password := ← Json.required Json.text? (m "password")
    passEnv := ← Json.required Json.text? (m "passEnv") }

def Projection.toJson (p : Projection) : Json :=
  .record [
    ("env", p.env.map .str),
    ("from", p.source.map .str),
    ("mount", p.mount.map .str),
    ("path", p.path.map .str),
    ("transform", p.transform.map StoreTransform.toJson),
    ("value", if p.literal then some (.bool true) else none)]

def Projection.ofJson? (j : Json) : Option Projection := do
  let m ← j.ordered? ["from", "path", "env", "mount", "value", "transform"]
  return {
    source := ← Json.optional Json.text? (m "from")
    path := ← Json.optional Json.text? (m "path")
    env := ← Json.optional Json.text? (m "env")
    mount := ← Json.optional Json.text? (m "mount")
    literal := ← Json.defaulted Json.bool? false (m "value")
    transform := ← Json.optional StoreTransform.ofJson? (m "transform") }

def SourceRef.toJson (s : SourceRef) : Json :=
  .record [
    ("group", some (.str s.group)),
    ("kind", some (.str s.kind)),
    ("name", some (.str s.name)),
    ("projections", some (.ofList Projection.toJson s.projections)),
    ("version", some (.str s.version))]

def SourceRef.ofJson? (j : Json) : Option SourceRef := do
  let m ← j.ordered? ["group", "version", "kind", "name", "projections"]
  return {
    group := ← Json.defaulted Json.text? "" (m "group")
    version := ← Json.required Json.text? (m "version")
    kind := ← Json.required Json.text? (m "kind")
    name := ← Json.required Json.text? (m "name")
    projections := ← Json.defaulted (Json.list? Projection.ofJson?) [] (m "projections") }

def Preset.toJson (p : Preset) : Json :=
  .record [
    ("resource", some (.str p.resource)),
    ("settings", if p.settings.isEmpty then none else some (.textDict p.settings)),
    ("type", some (.str p.service))]

def Preset.ofJson? (j : Json) : Option Preset := do
  let m ← j.ordered? ["type", "resource", "settings"]
  return {
    service := ← Json.required Json.text? (m "type")
    resource := ← Json.required Json.text? (m "resource")
    settings := ← Json.defaulted (Json.dict? Json.text?) {} (m "settings") }

def Binding.toJson (b : Binding) : Json :=
  .record [
    ("name", some (.str b.name)),
    ("nuxeoConf", if b.conf.isEmpty then none else some (.str b.conf)),
    ("preconfigured", b.preset.map Preset.toJson),
    ("resources", unlessEmpty SourceRef.toJson b.sources)]

def Binding.ofJson? (j : Json) : Option Binding := do
  let m ← j.ordered? ["name", "resources", "nuxeoConf", "preconfigured"]
  return {
    name := ← Json.required Json.text? (m "name")
    sources := ← Json.defaulted (Json.list? SourceRef.ofJson?) [] (m "resources")
    conf := ← Json.defaulted Json.text? "" (m "nuxeoConf")
    preset := ← Json.optional Preset.ofJson? (m "preconfigured") }

def InstanceSpec.toJson (s : InstanceSpec) : Json :=
  .record [
    ("backingServices", unlessEmpty Binding.toJson s.bindings),
    ("image", some (.str s.image)),
    ("replicas", some (.int32 s.replicas)),
    ("templates", unlessEmpty .str s.templates)]

def InstanceSpec.ofJson? (j : Json) : Option InstanceSpec := do
  let m ← j.ordered? ["image", "replicas", "templates", "backingServices"]
  let standard : InstanceSpec := {}
  return {
    image := ← Json.defaulted Json.text? standard.image (m "image")
    replicas := ← Json.defaulted Json.int32? standard.replicas (m "replicas")
    templates := ← Json.defaulted (Json.list? Json.text?) [] (m "templates")
    bindings := ← Json.defaulted (Json.list? Binding.ofJson?) [] (m "backingServices") }

def Instance.ofJson? (j : Json) : Option Instance := do
  let m ← j.ordered? ["metadata", "spec"]
  return {
    metadata := ← Json.required Object.Meta.ofJson? (m "metadata")
    spec := ← Json.required InstanceSpec.ofJson? (m "spec") }

end ServiceBinding
