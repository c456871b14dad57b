import ServiceBinding.Cluster.Reader
import ServiceBinding.Pass
import ServiceBinding.Proofs.Cluster.Calls

/-!
The operator on an in-memory cluster, next to a reader of sources with a state of its own. The
reader is any reader: what it answers may differ from call to call, and failures are answers. It
does not see the tables that the operator writes, so it is no other writer either.
-/
namespace ServiceBinding
open Binding Cluster Convergence Crypto Object
variable {σ ρ : Type}

/-- The reader whose state is the second part of a pair. -/
def Binding.SourceReader.onRight (reader : SourceReader ρ) : SourceReader (σ × ρ) where
  secret space name := (reader.secret space name).onRight
  configMap space name := (reader.configMap space name).onRight
  other space name kind := (reader.other space name kind).onRight

/-- A reader to which all objects have one form, or one error, the one that is its state. There are
no secrets and no config maps for it. -/
def Binding.SourceReader.uniform : SourceReader (Result Json) where
  secret _ name := throw (notFound KeyedKind.secret.plural name)
  configMap _ name := throw (notFound KeyedKind.configMap.plural name)
  other _ _ _ := do
    match ← get with
    | .ok form => return form
    | .error e => throw e

/-- A reader to which all secrets hold the same values, and that finds nothing else. -/
def Binding.SourceReader.shared (values : Dict Bytes) : SourceReader ρ where
  secret _ _ := return { metadata := {}, data := some values }
  configMap _ name := throw (notFound KeyedKind.configMap.plural name)
  other _ name kind := throw (notFound kind.plural name)

/-- What passes run with besides the cluster: a reader whose state is in `ρ`, and the draws. -/
structure Equipment (ρ : Type) where
  catalog : Catalog
  reader : SourceReader ρ
  settings : Settings
  primitives : Primitives
  draws : String → Nat → Draw

namespace Equipment

/-- Equipment with the builtin kinds and the standard settings. -/
def standard (reader : SourceReader ρ) : Equipment ρ where
  catalog := .builtin
  reader := reader
  settings := {}
  primitives := .standard
  draws _ k := .ofSeed (Bytes.ofText (toString k))

/-- Equipment with a reader to which the password of every secret is the same. -/
def onePassword : Equipment Unit := .standard (.shared (.insert {} "password" (Bytes.ofText "x")))

variable (E : Equipment ρ)

/-- The projector that works with this equipment. -/
def projector : Projector (Cluster × ρ) where
  catalog := E.catalog
  reader := E.reader.onRight
  secrets := (store Secret).onLeft
  mountBase := E.settings.mountBase
  primitives := E.primitives
  draws := E.draws

/-- The operator that works with this equipment. -/
def operator : Operator (Cluster × ρ) where
  projector := E.projector
  deployments := (store Deployment).onLeft
  configMaps := (store ConfigMap).onLeft
  settings := E.settings

@[simp] theorem projector_secrets : E.projector.secrets = (store Secret).onLeft := rfl

@[simp] theorem projector_catalog : E.projector.catalog = E.catalog := rfl

@[simp] theorem projector_mountBase : E.projector.mountBase = E.settings.mountBase := rfl

@[simp] theorem operator_projector : E.operator.projector = E.projector := rfl

@[simp] theorem operator_deployments : E.operator.deployments = (store Deployment).onLeft := rfl

@[simp] theorem operator_configMaps : E.operator.configMaps = (store ConfigMap).onLeft := rfl

/-- Reading a source works on the reader's state alone. -/
theorem exec_read (space name : String) (access : Access) (s : Cluster × ρ) :
    (E.projector.reader.read space name access).exec s =
      (((E.reader.read space name access).exec s.2).1,
        (s.1, ((E.reader.read space name access).exec s.2).2)) := by
  rcases access with (_ | _) | kind
  all_goals
    simp only [projector, SourceReader.read, SourceReader.onRight, Action.exec_bind,
      Action.exec_onRight]
  · obtain ⟨_ | _, _⟩ := (E.reader.secret space name).exec s.2 <;> rfl
  · obtain ⟨_ | _, _⟩ := (E.reader.configMap space name).exec s.2 <;> rfl
  · obtain ⟨_ | _, _⟩ := (E.reader.other space name kind).exec s.2 <;> rfl

end Equipment

/-- An instance with one binding, which mounts the password that a secret holds. -/
def passwordMounted : Instance where
  metadata := { name := some "nx", space := some "prod", uid := some "u1" }
  spec := {
    bindings := [{
      name := "db"
      sources := [{
        version := "v1"
        kind := "Secret"
        name := "creds"
        projections := [{ source := some "password", mount := some "password" }] }] }] }

end ServiceBinding
