import ServiceBinding.Object.Pod
import ServiceBinding.Text.Search
import ServiceBinding.Workload.Merged

/-!
Merging mounts and variables into a container. A mount of a known name must be the same mount. A
variable of a known name must be the same variable, unless it is a delimited list of plain
values: then a value is appended that the list does not hold yet.
-/
namespace ServiceBinding.Workload
open Object

/-- The context of errors about a container. -/
def containerContext (c : Container) : String := "container " ++ c.name

def addMount (c : Container) (mount : Mount) : Merged Container :=
  let mounts := c.volumeMounts.getD []
  let kept : Container := { c with volumeMounts := some mounts }
  match mounts.find? (·.name == mount.name) with
  | none => .done { c with volumeMounts := some (mounts ++ [mount]) }
  | some known =>
    if known = mount then .done kept
    else
      .failed kept (.configuration (containerContext c) ("volume mount " ++ mount.name ++
        " is already mounted at " ++ known.mountPath ++ ", cannot mount it at " ++
        mount.mountPath))

/-- A delimited list with one more value, unless the value is empty or there already. -/
def appendValue (delimiter list value : String) : String :=
  if value.isEmpty || (Text.split list delimiter).contains value then list
  else if list.isEmpty then value
  else list ++ delimiter ++ value

/-- Unites two variables of one name. -/
def mergeVariable (context : String) (delimiter : Option String) (known added : EnvVar) :
    Merged EnvVar :=
  let refuse (message : String) : Merged EnvVar :=
    .failed known (.configuration context ("env var " ++ added.name ++ message))
  if known = added then .done known
  else if known.valueFrom.isSome || added.valueFrom.isSome then
    refuse " is defined twice and one definition is a reference"
  else
    match delimiter with
    | none => refuse " is defined twice with different values"
    | some delimiter =>
      .done { known with
        value := some (appendValue delimiter (known.value.getD "") (added.value.getD "")) }

/-- Adds a variable to a container; with a delimiter, plain values of one name are united. -/
def mergeEnv (c : Container) (var : EnvVar) (delimiter : Option String) : Merged Container :=
  let env := c.env.getD []
  let merged : Merged (List EnvVar) :=
    match env.find? (·.name == var.name) with
    | some known =>
      (mergeVariable (containerContext c) delimiter known var).within fun merged =>
        replaceFirst (·.name == var.name) merged env
    | none => .done (env ++ [var])
  merged.within fun env => { c with env := some env }

/-! ### The container of the instance -/

/-- The name of the container that runs the server. -/
def serverContainer : String := "nuxeo"

/-- Merges into the server's container of a pod. -/
def inServer (pod : PodSpec) (merge : Container → Merged Container) : Merged PodSpec :=
  match pod.containers.find? (·.name == serverContainer) with
  | some c =>
    (merge c).within fun merged =>
      { pod with containers := replaceFirst (·.name == serverContainer) merged pod.containers }
  | none =>
    .failed pod (.internal "nuxeo_container_mut" ("pod has no " ++ serverContainer ++
      " container"))

end ServiceBinding.Workload
