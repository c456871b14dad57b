import ServiceBinding.Instance.Basic
import ServiceBinding.Object.Deployment
import ServiceBinding.Object.Secret
import ServiceBinding.Workload.Container
import ServiceBinding.Workload.Volumes

/-!
The objects that an instance asks for: a deployment with one server container, and a config map
with the configuration text of its bindings. All of them carry the instance's labels and an owner
reference to it.
-/
namespace ServiceBinding.Workload
open Object

/-! ### Identity -/

/-- The error of an instance that the cluster has not given an identity yet. -/
def noIdentity (context : String) (i : Instance) : Error :=
  .internal context ("Nuxeo " ++ i.name ++ " has no uid yet")

def ownerRef (i : Instance) : Result OwnerRef :=
  match i.metadata.name, i.metadata.uid with
  | some name, some uid => .ok {
      apiVersion := "appzygy.net/v1alpha1", kind := "Nuxeo", name, uid, controller := some true }
  | _, _ => .error (noIdentity "owner_reference" i)

/-- The identity of an instance. -/
def ownerUid (i : Instance) : Result String :=
  match i.metadata.uid with
  | some uid => .ok uid
  | none => .error (noIdentity "owner_uid" i)

/-! ### Labels -/

/-- The label that names the instance. -/
def instanceLabel : String := "app.kubernetes.io/instance"

/-- The label that tells apart the kinds of objects made for one instance. -/
def componentLabel : String := "app.kubernetes.io/component"

/-- The labels of every object made for an instance. -/
def labels (i : Instance) : Dict String :=
  .ofList [
    ("app.kubernetes.io/name", "nuxeo"),
    (instanceLabel, i.name),
    ("app.kubernetes.io/managed-by", "nuxeo-operator")]

/-- The metadata of an object that belongs to an instance. -/
def ownedMeta (i : Instance) (name : String) : Result Meta := do
  return {
    name := some name
    space := i.metadata.space
    labels := some (labels i)
    owners := some [← ownerRef i] }

/-! ### Deployment -/

/-- The variable that lists the enabled templates. -/
def templatesVariable : String := "NUXEO_TEMPLATES"

/-- The delimiter of the list of templates. -/
def templatesDelimiter : String := ","

def addTemplates (c : Container) (templates : List String) : Merged Container :=
  Merged.forEach (fun c template =>
    mergeEnv c (.plain templatesVariable template) (some templatesDelimiter)) c templates

/-- The deployment of an instance before anything is bound to it. -/
def deployment (i : Instance) : Result Deployment := do
  let bare : Container := { name := serverContainer, image := some i.spec.image }
  let container ← (addTemplates bare i.spec.templates).toResult
  return {
    metadata := ← ownedMeta i i.name
    spec := some {
      replicas := some i.spec.replicas
      selector := { matchLabels := some (labels i) }
      template := {
        metadata := some { labels := some (labels i) }
        spec := some { containers := [container] } } } }

def podSpec? (d : Deployment) : Option PodSpec := do (← d.spec).template.spec

/-- The pod of a deployment, which every deployment built here has. -/
def podSpec (d : Deployment) : Result PodSpec :=
  match podSpec? d with
  | some pod => .ok pod
  | none => .error (.internal "pod_spec_mut" "deployment has no pod spec")

def withPod (d : Deployment) (pod : PodSpec) : Deployment :=
  { d with spec := d.spec.map fun s =>
    { s with template := { s.template with spec := some pod } } }

/-! ### Configuration of the bindings -/

/-- The name of the config map that holds the configuration text of all bindings. -/
def confName (i : Instance) : String := i.name ++ "-binding-conf"

/-- The key of the text in the config map. -/
def confKey : String := "nuxeo.conf"

/-- The name of the volume that holds the text. -/
def confVolume : String := "binding-conf"

/-- The directory from which the server reads fragments of configuration. -/
def confDirectory : String := "/etc/nuxeo/nuxeo.conf.d"

/-- The config map that holds a configuration text. -/
def bindingConf (i : Instance) (text : String) : Result ConfigMap := do
  return {
    metadata := ← ownedMeta i (confName i)
    data := some (.ofList [(confKey, text)]) }

/-- Mounts the configuration text into the server's container. -/
def mountConf (i : Instance) (pod : PodSpec) : Merged PodSpec :=
  let volume : Volume := {
    name := confVolume
    configMap := some {
      name := confName i
      items := some [{ key := confKey, path := i.name ++ "-bindings.conf" }] } }
  let mount : Mount :=
    { name := confVolume, mountPath := confDirectory, readOnly := some true }
  (addVolume pod volume).andThen fun pod => inServer pod (addMount · mount)

end ServiceBinding.Workload
