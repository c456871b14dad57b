import ServiceBinding.Proofs.Workload.Showing

/-!
What a deployment has that is found to be as wanted. It has every label and owner wanted, and its
pod lists what the pod wanted lists, by name and in order: volumes, containers and, for each
container, variables, sources of variables and mounts, where a list left out counts as empty
(`entries_of_equal`). So nothing stays listed that is no longer wanted. Within an entry, what is
asked for is there unchanged; what an entry leaves out is not compared (`not_same_leftOut`).
-/
namespace ServiceBinding
open Convergence Json Object

/-- The key of a secret that a variable takes its value from. -/
def Object.EnvVar.secretKey? (e : EnvVar) : Option KeyRef := e.valueFrom.bind (·.secretKeyRef)

/-- The key of a config map that a variable takes its value from. -/
def Object.EnvVar.configMapKey? (e : EnvVar) : Option KeyRef := e.valueFrom.bind (·.configMapKeyRef)

namespace Convergence

/-! ### Entries -/

/-- Whether a key reference is kept by another one: it has the same object and key, and is optional
if that was asked for. -/
structure KeyKept (wanted found : KeyRef) : Prop where
  name : found.name = wanted.name
  key : found.key = wanted.key
  isOptional : ∀ b, wanted.optional = some b → found.optional = some b

/-- Whether a variable is kept by another one: its name, and the value or key asked for. -/
structure VariableKept (wanted found : EnvVar) : Prop where
  name : found.name = wanted.name
  value : ∀ text, wanted.value = some text → found.value = some text
  secretKey : ∀ ref, wanted.secretKey? = some ref →
    ∃ ref', found.secretKey? = some ref' ∧ KeyKept ref ref'
  configMapKey : ∀ ref, wanted.configMapKey? = some ref →
    ∃ ref', found.configMapKey? = some ref' ∧ KeyKept ref ref'

/-- Whether an object that becomes variables is kept by another one: its name, and that it is
optional if that was asked for. -/
structure SourceKept (wanted found : EnvSource) : Prop where
  name : found.name = wanted.name
  isOptional : ∀ b, wanted.optional = some b → found.optional = some b

/-- Whether a source of variables is kept by another one: the secret and config map that it names,
and the text that the names of its variables begin with, wherever these were asked for. -/
structure EnvFromKept (wanted found : EnvFrom) : Prop where
  secret : ∀ source, wanted.secretRef = some source →
    ∃ source', found.secretRef = some source' ∧ SourceKept source source'
  configMap : ∀ source, wanted.configMapRef = some source →
    ∃ source', found.configMapRef = some source' ∧ SourceKept source source'
  stem : ∀ text, wanted.stem = some text → found.stem = some text

/-- Whether a container is kept by another one: its name, and all that it lists of variables,
sources of variables and mounts, in order and nothing else. -/
structure ContainerKept (wanted found : Container) : Prop where
  name : found.name = wanted.name
  env : (found.env.getD []).map (·.name) = (wanted.env.getD []).map (·.name)
  values : List.Forall₂ VariableKept (wanted.env.getD []) (found.env.getD [])
  envFrom : List.Forall₂ EnvFromKept (wanted.envFrom.getD []) (found.envFrom.getD [])
  mounts : (found.volumeMounts.getD []).map (·.name) = (wanted.volumeMounts.getD []).map (·.name)

/-- Whether a pod is kept by another one: all that it lists of volumes and containers, in order and
nothing else, and so for the containers that run first, if it asks for any. -/
structure PodKept (wanted found : PodSpec) : Prop where
  volumes : (found.volumes.getD []).map (·.name) = (wanted.volumes.getD []).map (·.name)
  names : found.containers.map (·.name) = wanted.containers.map (·.name)
  containers : List.Forall₂ ContainerKept wanted.containers found.containers
  initContainers : ∀ l, wanted.initContainers = some l →
    List.Forall₂ ContainerKept l (found.initContainers.getD [])

theorem keyKept_of_isContained {r r' : KeyRef} (h : r.toJson.isContained r'.toJson = true) :
    KeyKept r r' where
  name := (eq_of_isContained h (by simp) "name" (by simp) (by simp)).symm
  key := (eq_of_isContained h (by simp) "key" (by simp) (by simp)).symm
  isOptional b hb := bool_of_isContained h (by simp) "optional" (by simp [hb]) (by simp)

section Variables
variable {e e' : EnvVar} (h : e.toJson.isContained e'.toJson = true)
include h

/-- A key that a variable takes its value from is kept, whichever member of the value's source names
it. -/
theorem keyRef_of_isContained (key : String) {get : ValueSource → Option KeyRef}
    {members : ValueSource → List (String × Option Json)}
    (written : ∀ s, s.toJson = record (members s)) (keys : ∀ s, ((members s).map (·.1)).Nodup)
    (member : ∀ s, (key, (get s).map KeyRef.toJson) ∈ members s) {ref : KeyRef}
    (there : e.valueFrom.bind get = some ref) :
    ∃ ref', e'.valueFrom.bind get = some ref' ∧ KeyKept ref ref' := by
  obtain ⟨s, hs, href⟩ := Option.bind_eq_some_iff.1 there
  have named : (key, some ref.toJson) ∈ members s := by
    have h := member s
    rwa [href] at h
  obtain ⟨s', hs', hsource⟩ := some_of_isContained h (by simp) "valueFrom" ValueSource.toJson s
    e'.valueFrom (by rw [written s]; exact fits_none_of_mem named) (by simp [hs]) (by simp)
  rw [written s, written s'] at hsource
  obtain ⟨ref', href', hkept⟩ := some_of_isContained hsource (keys s') key KeyRef.toJson ref
    (get s') rfl named (member s')
  exact ⟨ref', Option.bind_eq_some_iff.2 ⟨s', hs', href'⟩, keyKept_of_isContained hkept⟩

theorem variableKept_of_isContained : VariableKept e e' where
  name := (eq_of_isContained h (by simp) "name" (by simp) (by simp)).symm
  value text there := str_of_isContained h (by simp) "value" (by simp [there]) (by simp)
  secretKey _ := keyRef_of_isContained h "secretKeyRef" (fun _ => rfl) (by simp) (by simp)
  configMapKey _ := keyRef_of_isContained h "configMapKeyRef" (fun _ => rfl) (by simp) (by simp)

end Variables

theorem sourceKept_of_isContained {s s' : EnvSource} (h : s.toJson.isContained s'.toJson = true) :
    SourceKept s s' where
  name := (eq_of_isContained h (by simp) "name" (by simp) (by simp)).symm
  isOptional b hb := bool_of_isContained h (by simp) "optional" (by simp [hb]) (by simp)

theorem envFromKept_of_isContained {e e' : EnvFrom} (h : e.toJson.isContained e'.toJson = true) :
    EnvFromKept e e' where
  secret source there := by
    obtain ⟨source', hsource', kept⟩ := some_of_isContained h (by simp) "secretRef" EnvSource.toJson
      source e'.secretRef rfl (by simp [there]) (by simp)
    exact ⟨source', hsource', sourceKept_of_isContained kept⟩
  configMap source there := by
    obtain ⟨source', hsource', kept⟩ := some_of_isContained h (by simp) "configMapRef"
      EnvSource.toJson source e'.configMapRef rfl (by simp [there]) (by simp)
    exact ⟨source', hsource', sourceKept_of_isContained kept⟩
  stem text there := str_of_isContained h (by simp) "prefix" (by simp [there]) (by simp)

/-! ### Containers and pods -/

/-- A container that has everything another one asks for, its lists all there, keeps it. -/
theorem containerKept_of_isContained {c c' : Container}
    (h : (fillContainer c).toJson.isContained c'.toJson = true) : ContainerKept c c' := by
  have values := (Container.env_of_isContained h).imp fun _ _ => variableKept_of_isContained
  exact {
    name := (Container.name_of_isContained h).symm
    env := (map_eq_of_forall₂ (fun kept => kept.name.symm) values).symm
    values := values
    envFrom := (Container.envFrom_of_isContained h).imp fun _ _ => envFromKept_of_isContained
    mounts := (map_eq_of_forall₂
      (fun h => eq_of_isContained h (by simp) "name" (by simp) (by simp))
      (Container.mounts_of_isContained h)).symm }

theorem podKept_of_isContained {pod pod' : PodSpec}
    (h : (fillPod pod).toJson.isContained pod'.toJson = true) : PodKept pod pod' := by
  have hcontainers := (containers_of_isContained h).imp fun _ _ => containerKept_of_isContained
  exact {
    volumes := (map_eq_of_forall₂ (fun h => Volume.name_of_isContained h)
      (volumes_of_isContained h)).symm
    names := (map_eq_of_forall₂ (fun kept => kept.name.symm) hcontainers).symm
    containers := hcontainers
    initContainers := fun l hl => (initContainers_of_isContained h hl).imp
      fun _ _ => containerKept_of_isContained }

/-- **Nothing stays listed that is not wanted**: a deployment that is found to be as wanted has all
labels and owners wanted, and its pod lists the volumes and containers wanted and no others, in the
order wanted, each container with its variables, sources of variables and mounts; and each value
and key reference asked for is there. -/
theorem entries_of_equal {wanted found : Deployment} {pod : PodSpec}
    (podded : Workload.podSpec? wanted = some pod)
    (equal : compareDeployment wanted found = .equal) :
    Includes wanted.metadata found.metadata ∧
      ∃ pod', Workload.podSpec? found = some pod' ∧ PodKept pod pod' := by
  obtain ⟨hmeta, hspec⟩ := compareDeployment_eq_equal.1 equal
  obtain ⟨pod', hpod', hcontained⟩ := pod_of_agrees podded hspec
  exact ⟨metaAgrees_iff.1 hmeta, pod', hpod', podKept_of_isContained hcontained⟩

/-- A container whose password is taken from a secret and whose settings from a config map, found
with what the platform has added. -/
theorem entries_of_equal_defaulted :
    let password : EnvVar :=
      { name := "DB_PASS", valueFrom := some { secretKeyRef := some ⟨"creds", "password", none⟩ } }
    let mount : Mount := { name := "binding-db", mountPath := "/etc/nuxeo/binding/db" }
    let settings : EnvFrom :=
      { configMapRef := some { name := "settings" }, stem := some "NUXEO_" }
    let c : Container :=
      { name := "nuxeo", env := some [password], envFrom := some [settings]
        volumeMounts := some [mount] }
    let v : Volume := Binding.filesVolume "nx-secondary-db" "db" [⟨"host", "host", none⟩]
    let pod : PodSpec := { containers := [c], volumes := some [v] }
    let pod' : PodSpec :=
      { containers := [{ c with imagePullPolicy := some "Always" }]
        volumes := some [v]
        dnsPolicy := some "ClusterFirst"
        rest := { members := .ofList [("schedulerName", .str "default-scheduler")] } }
    let deployment (pod : PodSpec) : Deployment :=
      { metadata := { labels := some (.ofList [("app", "nx")]) }
        spec := some { template := { spec := some pod } } }
    compareDeployment (deployment pod) (deployment pod') = .equal ∧ PodKept pod pod' := by
  intro password mount settings c v pod pod' deployment
  have equal : compareDeployment (deployment pod) (deployment pod') = .equal := by decide +kernel
  obtain ⟨_, found, hfound, kept⟩ := entries_of_equal rfl equal
  cases hfound
  exact ⟨equal, kept⟩

/-- What an entry leaves out may be anything: a secret is found where a source of variables names
none, and a key reference is found to be optional. -/
theorem not_same_leftOut :
    let password (isOptional : Option Bool) : EnvVar :=
      { name := "DB_PASS"
        valueFrom := some { secretKeyRef := some ⟨"creds", "password", isOptional⟩ } }
    let wanted : Container :=
      { name := "nuxeo", env := some [password none], envFrom := some [{}] }
    let found : Container :=
      { name := "nuxeo", env := some [password (some true)]
        envFrom := some [{ secretRef := some { name := "old" } }] }
    let deployment (c : Container) : Deployment :=
      { spec := some { template := { spec := some { containers := [c] } } } }
    compareDeployment (deployment wanted) (deployment found) = .equal ∧
      (found.envFrom.getD []).map (fun e => e.secretRef.map (·.name)) ≠
        (wanted.envFrom.getD []).map (fun e => e.secretRef.map (·.name)) ∧
      (found.env.getD []).map (·.secretKey?) ≠ (wanted.env.getD []).map (·.secretKey?) := by
  decide +kernel

end Convergence

end ServiceBinding
