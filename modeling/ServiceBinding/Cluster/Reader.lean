import ServiceBinding.Binding.Source
import ServiceBinding.Cluster.Basic

/-!
Reading the sources of bindings from a cluster in memory. Secrets and config maps are the stored
ones; other objects are found by the namespace, version, plural and name they were put in with.
-/
namespace ServiceBinding.Cluster
open Binding Convergence Object

/-- The answer for an object that is not there. -/
def notFound (plural name : String) : Error :=
  .api 404 "NotFound" (plural ++ " \"" ++ name ++ "\" not found")

def reader : SourceReader Cluster where
  secret space name := do
    announce ⟨.read, KeyedKind.secret.name, space, name⟩
    match (← get).secrets.get? space name with
    | some s => return s
    | none => throw (notFound KeyedKind.secret.plural name)
  configMap space name := do
    announce ⟨.read, KeyedKind.configMap.name, space, name⟩
    match (← get).configMaps.get? space name with
    | some m => return m
    | none => throw (notFound KeyedKind.configMap.plural name)
  other space name kind := do
    announce ⟨.read, kind.kind, space, name⟩
    let found := (← get).others.find? fun a =>
      a.space == space && a.apiVersion == kind.apiVersion && a.plural == kind.plural &&
        a.name == name
    match found with
    | some a => return a.form
    | none => throw (notFound kind.plural name)

end ServiceBinding.Cluster
