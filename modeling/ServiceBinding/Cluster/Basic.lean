import ServiceBinding.Cluster.Fault
import ServiceBinding.Cluster.Table
import ServiceBinding.Object.Deployment
import ServiceBinding.Object.Secret
import ServiceBinding.Object.Service

/-!
A cluster in memory: one table for each kind of object the operator writes, other objects by their
JSON form, the calls made so far and the faults still to come.
-/
namespace ServiceBinding
open Object Cluster

/-- An object known by its JSON form only. -/
structure Cluster.OtherObject where
  space : String
  apiVersion : String
  plural : String
  name : String
  form : Json

structure Cluster where
  secrets : Table Secret := {}
  configMaps : Table ConfigMap := {}
  deployments : Table Deployment := {}
  services : Table Service := {}
  others : List OtherObject := []
  faults : List Fault := []
  /-- The calls since they were last looked at, the latest first. -/
  calls : List Call := []

namespace Cluster
open Convergence

/-- A kind of object with a table in the cluster. -/
class Stored (α : Type) extends Resource α where
  table : Cluster → Table α
  withTable : Cluster → Table α → Cluster

instance : Stored Secret where
  table c := c.secrets
  withTable c t := { c with secrets := t }

instance : Stored ConfigMap where
  table c := c.configMaps
  withTable c t := { c with configMaps := t }

instance : Stored Deployment where
  table c := c.deployments
  withTable c t := { c with deployments := t }

instance : Stored Service where
  table c := c.services
  withTable c t := { c with services := t }

/-- Puts a call on record and lets the faults answer it first. -/
def announce (call : Call) : Action Cluster Unit := do
  let c ← get
  let (e, faults) := strike call c.faults
  set { c with faults := faults, calls := call :: c.calls }
  match e with
  | some e => throw e
  | none => return

/-- The objects of one kind, as the operator has access to them. -/
def store (α : Type) [Stored α] : Store Cluster α :=
  let kind := Resource.kind α
  let write (attempt : Table α → Result (Table α)) : Action Cluster Unit := do
    let c ← get
    match attempt (Stored.table c) with
    | .ok table => set (Stored.withTable c table)
    | .error e => throw e
  { get := fun space name => do
      announce ⟨.get, kind, space, name⟩
      return (Stored.table (← get)).get? space name
    list := fun space selector => do
      announce ⟨.list, kind, space, selector⟩
      return (Stored.table (← get)).select space selector
    create := fun space a => do
      announce ⟨.create, kind, space, Table.ownName a⟩
      write (·.create space a)
    replace := fun space name a => do
      announce ⟨.replace, kind, space, name⟩
      write (·.replace space name a)
    delete := fun space name => do
      announce ⟨.delete, kind, space, name⟩
      write fun t => .ok (t.delete space name) }

end Cluster

end ServiceBinding
