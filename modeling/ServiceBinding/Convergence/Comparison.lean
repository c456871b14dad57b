import ServiceBinding.Json.Containment
import ServiceBinding.Object.Deployment
import ServiceBinding.Object.Secret
import ServiceBinding.Object.Service

/-!
Comparing an object with the one wanted in its place. The answer is either that nothing has to be
written, or the object to write: the one found, with what is wanted applied to it. Starting from
the one found keeps its version and whatever the platform owns. Specifications are compared by
containment of their JSON forms, so defaults that the platform adds are no difference; data is
compared exactly, so a key that is no longer wanted is one.
-/
namespace ServiceBinding.Convergence
open Object

/-- What a comparison finds. -/
inductive Comparison (α : Type) where
  | equal
  /-- They differ; `updated` is what to write. -/
  | differs (updated : α)
deriving DecidableEq

/-- Compares the object wanted, given first, with the one found. -/
abbrev Comparer (α : Type) := α → α → Comparison α

/-- The comparison whose parts agree if `same` holds, with what to write if not. -/
def Comparison.of (same : Bool) (updated : α) : Comparison α :=
  if same then .equal else .differs updated

/-! ### Metadata -/

/-- The owners with one more, unless one of the same identity is there. -/
def addOwner (owners : List OwnerRef) (r : OwnerRef) : List OwnerRef :=
  if owners.any (·.uid == r.uid) then owners else owners ++ [r]

/-- The labels of an object once those wanted are set. -/
def applyLabels (wanted found : Option (Dict String)) : Option (Dict String) :=
  match wanted with
  | none => found
  | some labels => some ((found.getD {}).union labels)

/-- The owners of an object once those wanted are added. -/
def applyOwners (wanted found : Option (List OwnerRef)) : Option (List OwnerRef) :=
  match wanted with
  | none => found
  | some owners => some (owners.foldl addOwner (found.getD []))

/-- The metadata of an object with the labels and owners wanted. -/
def applyMeta (wanted found : Meta) : Meta :=
  { found with
    labels := applyLabels wanted.labels found.labels
    owners := applyOwners wanted.owners found.owners }

/-- Whether the object has all labels and owners wanted. -/
def metaAgrees (wanted found : Meta) : Bool :=
  let applied := applyMeta wanted found
  applied.labels.getD {} == found.labels.getD {} && applied.ownerList == found.ownerList

/-! ### Deployments -/

/-- A container whose lists are all there. -/
def fillContainer (c : Container) : Container :=
  { c with
    env := some (c.env.getD [])
    envFrom := some (c.envFrom.getD [])
    volumeMounts := some (c.volumeMounts.getD []) }

/-- A pod whose lists of volumes, and those of its containers, are all there. A list left out is
wanted empty, so that its last entry can be taken away. -/
def fillPod (p : PodSpec) : PodSpec :=
  { p with
    volumes := some (p.volumes.getD [])
    containers := p.containers.map fillContainer
    initContainers := p.initContainers.map (·.map fillContainer) }

/-- A deployment whose pod has all its lists. -/
def fillSpec (s : DeploymentSpec) : DeploymentSpec :=
  { s with template := { s.template with spec := s.template.spec.map fillPod } }

def optionalJson (write : α → Json) (a : Option α) : Json := (a.map write).getD .null

/-- Whether a deployment found has everything a deployment wanted asks for. -/
def deploymentSpecAgrees (wanted found : Option DeploymentSpec) : Bool :=
  (optionalJson DeploymentSpec.toJson (wanted.map fillSpec)).isContained
    (optionalJson DeploymentSpec.toJson found)

/-- Compares deployments: the pod's lists are compared as a whole, all else by containment. -/
def compareDeployment : Comparer Deployment := fun wanted found =>
  let specAgrees := deploymentSpecAgrees wanted.spec found.spec
  .of (metaAgrees wanted.metadata found.metadata && specAgrees)
    { found with
      metadata := applyMeta wanted.metadata found.metadata
      spec := if specAgrees then found.spec else wanted.spec }

/-! ### Services -/

/-- The node port that the ports found have for a port of the same name and number. -/
def allocatedPort (found : List ServicePort) (p : ServicePort) : Option Int32 :=
  (found.find? fun q => q.name == p.name && q.port == p.port).bind (·.nodePort)

/-- The specification wanted, with what the platform has allocated to the one found. -/
def keepAllocated (wanted found : ServiceSpec) : ServiceSpec :=
  { wanted with
    clusterIP := found.clusterIP
    clusterIPs := found.clusterIPs
    healthCheckNodePort := wanted.healthCheckNodePort.or found.healthCheckNodePort
    ports := wanted.ports.map (·.map fun p =>
      { p with nodePort := p.nodePort.or (allocatedPort (found.ports.getD []) p) }) }

/-- The specification of a service once the one wanted is applied. -/
def applyServiceSpec (wanted found : Option ServiceSpec) : ServiceSpec :=
  match found with
  | none => wanted.getD {}
  | some live => keepAllocated (wanted.getD {}) live

/-- Compares services, keeping addresses and node ports. -/
def compareService : Comparer Service := fun wanted found =>
  let specAgrees :=
    (optionalJson ServiceSpec.toJson wanted.spec).isContained
      (optionalJson ServiceSpec.toJson found.spec)
  .of (metaAgrees wanted.metadata found.metadata && specAgrees)
    { found with
      metadata := applyMeta wanted.metadata found.metadata
      spec := if specAgrees then found.spec else some (applyServiceSpec wanted.spec found.spec) }

/-! ### Secrets and config maps -/

/-- Whether two contents are the same, an absent one counting as empty. -/
def sameContent [DecidableEq α] (a b : Option (Dict α)) : Bool := a.getD {} == b.getD {}

/-- Compares secrets by their data and type. -/
def compareSecret : Comparer Secret := fun wanted found =>
  let dataAgrees := sameContent wanted.data found.data && wanted.type == found.type
  .of (metaAgrees wanted.metadata found.metadata && dataAgrees)
    { found with
      metadata := applyMeta wanted.metadata found.metadata
      data := if dataAgrees then found.data else wanted.data
      type := if dataAgrees then found.type else wanted.type }

/-- Compares config maps by their texts and bytes. -/
def compareConfigMap : Comparer ConfigMap := fun wanted found =>
  let dataAgrees :=
    sameContent wanted.data found.data && sameContent wanted.binaryData found.binaryData
  .of (metaAgrees wanted.metadata found.metadata && dataAgrees)
    { found with
      metadata := applyMeta wanted.metadata found.metadata
      data := if dataAgrees then found.data else wanted.data
      binaryData := if dataAgrees then found.binaryData else wanted.binaryData }

end ServiceBinding.Convergence
