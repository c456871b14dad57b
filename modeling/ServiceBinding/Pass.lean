import ServiceBinding.Binding.Projector
import ServiceBinding.Requeue

/-!
One pass over an instance: the specification is checked, the deployment built, and every binding
projected onto its pod. A failure that may go away by itself ends the pass there and leaves the
deployment as it is; other failures leave out their binding. Then the configuration text and the
deployment are brought to the state wanted, and the first failure is reported.
-/
namespace ServiceBinding
open Convergence Object

/-- What passes run with. -/
structure Operator (σ : Type) where
  projector : Binding.Projector σ
  deployments : Store σ Deployment
  configMaps : Store σ ConfigMap
  settings : Settings

namespace Operator
variable {σ : Type} (o : Operator σ)

/-- Brings the configuration text of an instance to the state wanted, and mounts it into the pod
unless it is empty. -/
def settleConf (i : Instance) (space uid text : String) (pod : PodSpec) : Action σ PodSpec := do
  if text.isEmpty then
    let _ ← removeOwned o.configMaps space (Workload.confName i) uid
    return pod
  else
    let wanted ← Workload.bindingConf i text
    let _ ← ensure o.configMaps compareConfigMap space (Workload.confName i) wanted
    (Workload.mountConf i pod).toResult

/-- Runs one pass over an instance and gives the seconds until the next one. -/
def pass (i : Instance) : Action σ Nat := do
  i.spec.validate
  let some space := i.metadata.space
    | throw (.configuration "metadata" "Nuxeo resource has no namespace")
  let uid ← Workload.ownerUid i
  let deployment ← Workload.deployment i
  let pod ← Workload.podSpec deployment
  let (pod, report) ← o.projector.projectAll i pod
  let (transient, report) := report.takeTransient
  if let some e := transient then throw e
  let pod ← o.settleConf i space uid report.conf pod
  let _ ← ensure o.deployments compareDeployment space i.name (Workload.withPod deployment pod)
  match report.error? with
  | some e => throw e
  | none => return Requeue.afterSuccess o.settings

end Operator

end ServiceBinding
