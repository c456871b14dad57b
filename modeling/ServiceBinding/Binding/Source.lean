import ServiceBinding.Binding.Catalog
import ServiceBinding.Binding.Path
import ServiceBinding.Convergence.Store
import ServiceBinding.Object.Secret

/-!
The content of a source, read once: the values of a secret or config map by key, or the JSON form
of any other object. A value given twice counts as the platform counts it: the bytes of a secret
before its texts, the texts of a config map before its bytes.
-/
namespace ServiceBinding.Binding
open Convergence Object

/-- What a source holds. -/
inductive Source where
  | keyed (kind : KeyedKind) (name : String) (values : Dict Bytes)
  /-- An object's form, and its label in messages. -/
  | structured (label : String) (form : Json)

def secretValues (s : Secret) : Dict Bytes :=
  ((s.stringData.getD {}).map Bytes.ofText).union (s.data.getD {})

def configMapValues (c : ConfigMap) : Dict Bytes :=
  (c.binaryData.getD {}).union ((c.data.getD {}).map Bytes.ofText)

/-- A message that says where it happened. -/
def locate (label : String) : Error → Error
  | .configuration context message => .configuration context (message ++ " in " ++ label)
  | e => e

/-- The value that a selector addresses. -/
def Source.lookup (s : Source) (selector : String) : Result Bytes :=
  match s with
  | .keyed kind name values =>
    match values.get? selector with
    | some value => .ok value
    | none =>
      .error (.unattributed
        ("key '" ++ selector ++ "' not found in " ++ kind.name ++ " " ++ name))
  | .structured label form => do
    let path ← Path.parse selector
    let text ← (path.resolve form).mapError (locate label)
    return Bytes.ofText text

/-- The key under which the value of a selector is kept. -/
def Source.derivedKey (s : Source) (selector : String) : Result String :=
  match s with
  | .keyed .. => .ok selector
  | .structured .. => do (← Path.parse selector).secretKey

/-- Reading of the resources that bindings refer to; an absent one is an error. -/
structure SourceReader (σ : Type) where
  secret : (space name : String) → Action σ Secret
  configMap : (space name : String) → Action σ ConfigMap
  /-- The JSON form of an object of any other kind. -/
  other : (space name : String) → ApiKind → Action σ Json

def SourceReader.read {σ : Type} (r : SourceReader σ) (space name : String) :
    Access → Action σ Source
  | .keyed .secret => do
    return .keyed .secret name (secretValues (← r.secret space name))
  | .keyed .configMap => do
    return .keyed .configMap name (configMapValues (← r.configMap space name))
  | .structured kind => do
    return .structured (kind.kind ++ " " ++ name) (← r.other space name kind)

end ServiceBinding.Binding
