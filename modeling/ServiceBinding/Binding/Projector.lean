import ServiceBinding.Binding.Plan
import ServiceBinding.Binding.Report
import ServiceBinding.Convergence.Basic

/-!
Projecting the bindings of an instance onto its pod. A binding is all or nothing: it works on a
copy of the pod, which is kept only when its secondary secret has been written as well. Bindings
succeed and fail independently. Afterwards the secondary secrets of bindings that are no longer
declared are deleted, if the instance owns them.
-/
namespace ServiceBinding.Binding
open Convergence Crypto Object

/-- What bindings are projected with. -/
structure Projector (σ : Type) where
  catalog : Catalog
  reader : SourceReader σ
  secrets : Store σ Secret
  mountBase : String
  primitives : Primitives
  /-- The draw for each projection of a binding, by the binding's name and the projection's place
  among all of the binding. -/
  draws : String → Nat → Draw

/-- The computation with its configuration errors attributed to a binding. -/
def attributed {σ α : Type} (binding : String) (r : Result α) : Action σ α :=
  match r with
  | .ok a => return a
  | .error e => throw (e.inBinding binding)

/-- The secondary secret of a binding with some content. -/
def secondarySecret (i : Instance) (binding : String) (content : Dict Bytes) :
    Result Secret := do
  let owned ← Workload.ownedMeta i (secondaryName i.name binding)
  let labels := (((owned.labels.getD {}).insert Workload.componentLabel secondaryComponent).insert
    bindingLabel binding)
  return {
    metadata := { owned with labels := some labels }
    type := some "Opaque"
    data := some content }

/-- The namespace of an instance, which it may lack while nothing is stored. -/
def spaceOf (i : Instance) : String := i.metadata.space.getD ""

namespace Projector
variable {σ : Type} (P : Projector σ)

/-- The content that the owner's secondary secret has kept from an earlier pass. -/
def kept (space name uid : String) : Action σ (Dict Bytes) := do
  match ← P.secrets.get space name with
  | some found => return if found.metadata.isOwnedBy uid then found.data.getD {} else {}
  | none => return {}

/-- Adds what all sources ask for, each read once, the draws counted from `k` on. -/
def collect (space binding : String) (kept : Dict Bytes) :
    Nat → Plan → List (SourceRef × Access) → Action σ Plan
  | _, plan, [] => return plan
  | k, plan, (ref, access) :: rest => do
    let source ← P.reader.read space ref.name access
    let plan ← attributed binding
      (plan.realizeAll P.primitives kept (P.draws binding) source k ref.projections)
    collect space binding kept (k + ref.projections.length) plan rest

/-- Brings the secondary secret of a binding to some content; an empty one is removed. -/
def settle (i : Instance) (binding uid : String) (content : Dict Bytes) : Action σ Unit := do
  let space := spaceOf i
  let name := secondaryName i.name binding
  if content.isEmpty then
    let _ ← removeOwned P.secrets space name uid
  else
    let wanted ← secondarySecret i binding content
    let _ ← ensure P.secrets compareSecret space name wanted

/-- Projects one binding: the pod with everything it adds, and its configuration text. -/
def project (i : Instance) (b : Binding) (pod : PodSpec) : Action σ (PodSpec × String) := do
  let name := b.name
  let space := spaceOf i
  let expansion ← attributed name (expand b P.mountBase)
  let sources ← attributed name (check P.catalog expansion.binding)
  let uid ← Workload.ownerUid i
  let secondary := secondaryName i.name name
  let kept ← P.kept space secondary uid
  let plan ← P.collect space name kept 0 { secondary := secondary } sources
  let pod ← attributed name (plan.apply name P.mountBase expansion.templates pod)
  P.settle i name uid plan.content
  return (pod, Text.trim expansion.binding.conf)

/-! ### Cleaning up -/

/-- Whether a secret is a leftover: the owner's, and of no declared binding. -/
def isLeftover (i : Instance) (uid : String) (s : Secret) : Bool :=
  !(i.spec.bindings.map fun b => secondaryName i.name b.name).contains s.metadata.displayName &&
    s.metadata.isOwnedBy uid

def deleteAll (space : String) : List Secret → Action σ (List String)
  | [] => return []
  | s :: rest => do
    P.secrets.delete space s.metadata.displayName
    return s.metadata.displayName :: (← deleteAll space rest)

/-- Deletes the secondary secrets of bindings that are no longer declared. -/
def prune (i : Instance) : Action σ (List String) := do
  let space := spaceOf i
  let uid ← Workload.ownerUid i
  let listed ← P.secrets.list space (secondarySelector i.name)
  P.deleteAll space (listed.filter (isLeftover i uid))

/-! ### All bindings -/

/-- What the bindings so far have come to. -/
structure Progress where
  pod : PodSpec
  applied : List String := []
  failed : List (String × Error) := []
  confs : List String := []

/-- The progress after one more binding. -/
def Progress.after (p : Progress) (b : Binding) : Result (PodSpec × String) → Progress
  | .ok (pod, conf) =>
    { p with
      pod := pod
      applied := p.applied ++ [b.name]
      confs := p.confs ++ (if conf.isEmpty then [] else [conf]) }
  | .error e => { p with failed := p.failed ++ [(b.name, e)] }

/-- Projects some bindings one after the other. -/
def projectEach (i : Instance) : Progress → List Binding → StateM σ Progress
  | p, [] => return p
  | p, b :: rest => do
    let r ← (P.project i b p.pod).run
    projectEach i (p.after b r) rest

/-- The name under which a failed cleanup is reported. -/
def cleanupName : String := "secondary secret cleanup"

/-- Projects every binding of an instance and cleans up. -/
def projectAll (i : Instance) (pod : PodSpec) : StateM σ (PodSpec × Report) := do
  let p ← P.projectEach i { pod := pod } i.spec.bindings
  let pruned ← (P.prune i).run
  return (p.pod, {
    applied := p.applied
    failed := p.failed ++ (match pruned with
      | .ok _ => []
      | .error e => [(cleanupName, e)])
    pruned := pruned.toOption.getD []
    conf := joinLines p.confs })

end Projector

end ServiceBinding.Binding
