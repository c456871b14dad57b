import ServiceBinding.Error
import ServiceBinding.Text.Lowercase
import ServiceBinding.Text.Search

/-!
The catalog of kinds: how the values of each kind of resource are addressed. Secrets and config
maps of the core group are read by key, whatever the catalog holds. Every other kind is read by
path, under the plural that was registered last for it, or a guessed one.
-/
namespace ServiceBinding.Binding

/-- The two kinds that are read by key. -/
inductive KeyedKind where
  | secret
  | configMap
deriving DecidableEq, Repr

def KeyedKind.name : KeyedKind → String
  | .secret => "Secret"
  | .configMap => "ConfigMap"

def KeyedKind.plural : KeyedKind → String
  | .secret => "secrets"
  | .configMap => "configmaps"

/-- The version text of a group and version; the core group is not named in it. -/
def apiVersion (group version : String) : String :=
  if group.isEmpty then version else group ++ "/" ++ version

/-- A kind of resource as the API serves it. -/
structure ApiKind where
  group : String
  version : String
  kind : String
  plural : String
deriving DecidableEq, Repr

/-- The version text of the kind. -/
def ApiKind.apiVersion (k : ApiKind) : String := Binding.apiVersion k.group k.version

/-- How the values of a resource are addressed. -/
inductive Access where
  | keyed (kind : KeyedKind)
  | structured (kind : ApiKind)
deriving DecidableEq, Repr

/-- The lower-case English plural of a kind's name. -/
def pluralize (kind : String) : String :=
  let lower := Text.lowercase kind
  let ends := Text.endsWith lower
  if ends "s" || ends "ch" || ends "sh" || ends "x" then lower ++ "es"
  else if ends "y" && !ends "ay" && !ends "ey" then String.ofList lower.toList.dropLast ++ "ies"
  else lower ++ "s"

/-- The registered kinds, the last one first. -/
structure Catalog where
  kinds : List ApiKind

namespace Catalog

def empty : Catalog := ⟨[]⟩

/-- The catalog with one more kind, which hides an earlier one of the same group, version and
kind. -/
def register (c : Catalog) (kind : ApiKind) : Catalog := ⟨kind :: c.kinds⟩

/-- The kind registered last for a group, version and kind. -/
def find? (c : Catalog) (group version kind : String) : Option ApiKind :=
  c.kinds.find? fun k => k.group == group && k.version == version && k.kind == kind

/-- The core kinds and those of the backing services with presets. -/
def builtin : Catalog :=
  let kinds : List ApiKind := [
    ⟨"", "v1", "Secret", "secrets"⟩,
    ⟨"", "v1", "ConfigMap", "configmaps"⟩,
    ⟨"", "v1", "Service", "services"⟩,
    ⟨"", "v1", "Endpoints", "endpoints"⟩,
    ⟨"", "v1", "Pod", "pods"⟩,
    ⟨"apps", "v1", "Deployment", "deployments"⟩,
    ⟨"apps", "v1", "StatefulSet", "statefulsets"⟩,
    ⟨"networking.k8s.io", "v1", "Ingress", "ingresses"⟩,
    ⟨"route.openshift.io", "v1", "Route", "routes"⟩,
    ⟨"elasticsearch.k8s.elastic.co", "v1", "Elasticsearch", "elasticsearches"⟩,
    ⟨"kafka.strimzi.io", "v1beta2", "Kafka", "kafkas"⟩,
    ⟨"kafka.strimzi.io", "v1beta2", "KafkaUser", "kafkausers"⟩,
    ⟨"postgres-operator.crunchydata.com", "v1beta1", "PostgresCluster", "postgresclusters"⟩]
  kinds.foldl register empty

/-- The kind that is read by key under a group, version and kind, if there is one. -/
def keyed? (group version kind : String) : Option KeyedKind :=
  if group = "" ∧ version = "v1" then
    if kind = "Secret" then some .secret
    else if kind = "ConfigMap" then some .configMap
    else none
  else none

/-- How the values of a kind are addressed. -/
def resolve (c : Catalog) (group version kind : String) : Result Access :=
  if version = "" ∨ kind = "" then
    .error (.unattributed ("resource reference needs a version and a kind, got version '" ++
      version ++ "' kind '" ++ kind ++ "'"))
  else
    match keyed? group version kind with
    | some keyed => .ok (.keyed keyed)
    | none =>
      .ok (.structured ((c.find? group version kind).getD
        ⟨group, version, kind, pluralize kind⟩))

end Catalog

end ServiceBinding.Binding
