import ServiceBinding.Object.Pod
import ServiceBinding.Object.Resource

/-!
Deployments: how many pods of which template run, and how one set of them replaces another.
-/
namespace ServiceBinding.Object

/-- What every pod of a deployment is made from. -/
structure PodTemplate where
  metadata : Option Meta := none
  spec : Option PodSpec := none
deriving DecidableEq

/-- How far a rolling update may deviate from the wanted number of pods. -/
structure RollingUpdate where
  maxSurge : Option IntOrText
  maxUnavailable : Option IntOrText
deriving DecidableEq, Repr

/-- How new pods replace old ones. -/
structure Strategy where
  type : Option String
  rollingUpdate : Option RollingUpdate
deriving DecidableEq, Repr

/-- What a deployment asks for. -/
structure DeploymentSpec where
  replicas : Option Int32 := none
  selector : LabelSelector := {}
  template : PodTemplate := {}
  revisionHistoryLimit : Option Int32 := none
  progressDeadlineSeconds : Option Int32 := none
  minReadySeconds : Option Int32 := none
  paused : Option Bool := none
  strategy : Option Strategy := none
deriving DecidableEq

def deploymentStatusNames : List String :=
  ["availableReplicas", "collisionCount", "conditions", "observedGeneration", "unavailableReplicas",
    "updatedReplicas"]

/-- What the platform reports of a deployment. -/
structure DeploymentStatus where
  replicas : Option Int32
  readyReplicas : Option Int32
  rest : Json.Rest deploymentStatusNames := .empty
deriving DecidableEq

structure Deployment where
  metadata : Meta := {}
  spec : Option DeploymentSpec := none
  status : Option DeploymentStatus := none
deriving DecidableEq

/-! ### JSON form -/

def PodTemplate.toJson (t : PodTemplate) : Json :=
  .record [("metadata", t.metadata.map Meta.toJson), ("spec", t.spec.map PodSpec.toJson)]

def PodTemplate.ofJson? (j : Json) : Option PodTemplate := do
  let m ← j.members?
  return {
    metadata := ← Json.optional Meta.ofJson? (m "metadata")
    spec := ← Json.optional PodSpec.ofJson? (m "spec") }

def RollingUpdate.toJson (u : RollingUpdate) : Json :=
  .record [
    ("maxSurge", u.maxSurge.map IntOrText.toJson),
    ("maxUnavailable", u.maxUnavailable.map IntOrText.toJson)]

def RollingUpdate.ofJson? (j : Json) : Option RollingUpdate := do
  let m ← j.members?
  return {
    maxSurge := ← Json.optional IntOrText.ofJson? (m "maxSurge")
    maxUnavailable := ← Json.optional IntOrText.ofJson? (m "maxUnavailable") }

def Strategy.toJson (s : Strategy) : Json :=
  .record [
    ("rollingUpdate", s.rollingUpdate.map RollingUpdate.toJson),
    ("type", s.type.map .str)]

def Strategy.ofJson? (j : Json) : Option Strategy := do
  let m ← j.members?
  return {
    type := ← Json.optional Json.text? (m "type")
    rollingUpdate := ← Json.optional RollingUpdate.ofJson? (m "rollingUpdate") }

def DeploymentSpec.toJson (s : DeploymentSpec) : Json :=
  .record [
    ("minReadySeconds", s.minReadySeconds.map .int32),
    ("paused", s.paused.map .bool),
    ("progressDeadlineSeconds", s.progressDeadlineSeconds.map .int32),
    ("replicas", s.replicas.map .int32),
    ("revisionHistoryLimit", s.revisionHistoryLimit.map .int32),
    ("selector", some s.selector.toJson),
    ("strategy", s.strategy.map Strategy.toJson),
    ("template", some s.template.toJson)]

def DeploymentSpec.ofJson? (j : Json) : Option DeploymentSpec := do
  let m ← j.members?
  return {
    replicas := ← Json.optional Json.int32? (m "replicas")
    selector := ← Json.lenient LabelSelector.ofJson? {} (m "selector")
    template := ← Json.lenient PodTemplate.ofJson? {} (m "template")
    revisionHistoryLimit := ← Json.optional Json.int32? (m "revisionHistoryLimit")
    progressDeadlineSeconds := ← Json.optional Json.int32? (m "progressDeadlineSeconds")
    minReadySeconds := ← Json.optional Json.int32? (m "minReadySeconds")
    paused := ← Json.optional Json.bool? (m "paused")
    strategy := ← Json.optional Strategy.ofJson? (m "strategy") }

def DeploymentStatus.toJson (s : DeploymentStatus) : Json :=
  .recordWith s.rest [
    ("readyReplicas", s.readyReplicas.map .int32),
    ("replicas", s.replicas.map .int32)]

def DeploymentStatus.ofJson? (j : Json) : Option DeploymentStatus := do
  let m ← j.members?
  return {
    replicas := ← Json.optional Json.int32? (m "replicas")
    readyReplicas := ← Json.optional Json.int32? (m "readyReplicas")
    rest := ← Json.rest? deploymentStatusNames m }

def Deployment.toJson (d : Deployment) : Json :=
  .record [
    ("apiVersion", some (.str "apps/v1")),
    ("kind", some (.str "Deployment")),
    ("metadata", some d.metadata.toJson),
    ("spec", d.spec.map DeploymentSpec.toJson),
    ("status", d.status.map DeploymentStatus.toJson)]

def Deployment.ofJson? (j : Json) : Option Deployment := do
  let m ← typedMembers? "apps/v1" "Deployment" j
  return {
    metadata := ← Json.lenient Meta.ofJson? {} (m "metadata")
    spec := ← Json.optional DeploymentSpec.ofJson? (m "spec")
    status := ← Json.optional DeploymentStatus.ofJson? (m "status") }

instance : Resource Deployment where
  kind := "Deployment"
  apiVersion := "apps/v1"
  metadata := Deployment.metadata
  withMetadata d m := { d with metadata := m }
  toJson := Deployment.toJson
  ofJson? := Deployment.ofJson?
  metadata_withMetadata _ _ := rfl
  withMetadata_metadata _ := rfl
  withMetadata_withMetadata _ _ _ := rfl

end ServiceBinding.Object
