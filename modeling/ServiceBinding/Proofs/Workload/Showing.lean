import ServiceBinding.Proofs.Binding.Applying
import ServiceBinding.Proofs.Convergence.Resting

/-!
What a deployment shows of stored objects: the keys of secrets that its volumes take files from,
and the config maps that they are. A deployment that has everything another one asks for shows the
same of them (`volumes_of_agrees`).
-/
namespace ServiceBinding
open Binding Cluster Convergence Json Object

/-- The volumes of the pods of a deployment. -/
def Object.Deployment.volumes (d : Deployment) : List Volume :=
  ((Workload.podSpec? d).bind (·.volumes)).getD []

/-- The secrets and keys that the items of a projected volume are taken from. -/
def Object.Volume.secretKeys (v : Volume) : List (String × String) :=
  ((v.projected.bind (·.sources)).getD []).flatMap fun source =>
    match source.secret with
    | some files => (files.items.getD []).map fun item => (files.name, item.key)
    | none => []

theorem Workload.podSpec?_eq_some {d : Deployment} {pod : PodSpec} :
    podSpec? d = some pod ↔ ∃ s, d.spec = some s ∧ s.template.spec = some pod :=
  Option.bind_eq_some_iff

theorem Workload.podSpec?_withPod {d : Deployment} {pod : PodSpec}
    (podded : Workload.podSpec d = .ok pod) (pod' : PodSpec) :
    podSpec? (withPod d pod') = some pod' := by
  unfold podSpec at podded
  cases h : podSpec? d with
  | none =>
    rw [h] at podded
    cases podded
  | some _ =>
    obtain ⟨s, hs, _⟩ := podSpec?_eq_some.1 h
    refine podSpec?_eq_some.2
      ⟨{ s with template := { s.template with spec := some pod' } }, ?_, rfl⟩
    unfold withPod
    rw [hs, Option.map_some]

theorem Object.Deployment.volumes_of_podSpec? {d : Deployment} {pod : PodSpec}
    (h : Workload.podSpec? d = some pod) : d.volumes = pod.volumes.getD [] := by
  unfold Deployment.volumes
  rw [h, Option.bind_some]

theorem Object.Deployment.volumes_congr {d d' : Deployment} (h : d.spec = d'.spec) :
    d.volumes = d'.volumes := by
  unfold Deployment.volumes Workload.podSpec?
  rw [h]

/-! ### Agreement -/

theorem Object.Item.key_of_isContained {a b : Item} (h : a.toJson.isContained b.toJson = true) :
    a.key = b.key :=
  eq_of_isContained h (by simp) "key" (by simp) (by simp)

/-- A volume that has everything the one of a binding asks for shows the same keys. -/
theorem Binding.secretKeys_of_isContained {secondary binding : String} {items : List Item}
    {v : Volume} (h : (filesVolume secondary binding items).toJson.isContained v.toJson = true) :
    v.projected ≠ none ∧ v.secretKeys = items.map fun item => (secondary, item.key) := by
  obtain ⟨projected, hprojected, h⟩ := some_of_isContained (Volume.isContained_iff.1 h).1
    (by simp [Volume.members]) "projected" ProjectedVolume.toJson
    { sources := some [secretSourceOf secondary items] } v.projected rfl
    (by simp [Volume.members, filesVolume]) (by simp [Volume.members])
  have hsources := forall₂_of_isContained h (by simp) "sources" ProjectedSource.toJson
    [secretSourceOf secondary items] projected.sources (by simp) (by simp)
  obtain ⟨source, rest, hsource, hrest, hs⟩ := List.forall₂_cons_left_iff.1 hsources
  cases hrest
  obtain ⟨files, hfiles, h⟩ := some_of_isContained hsource (by simp) "secret" ObjectItems.toJson
    { name := secondary, items := some items } source.secret rfl (by simp [secretSourceOf])
    (by simp)
  have hname : secondary = files.name := eq_of_isContained h (by simp) "name" (by simp) (by simp)
  have hitems := forall₂_of_isContained h (by simp) "items" Item.toJson items files.items
    (by simp) (by simp)
  refine ⟨hprojected ▸ Option.some_ne_none _, ?_⟩
  unfold Volume.secretKeys
  rw [hprojected, Option.bind_some, hs, List.flatMap_singleton, hfiles, hname]
  exact (map_eq_of_forall₂ (fun h => by rw [Item.key_of_isContained h]) hitems).symm

theorem Object.Volume.name_of_isContained {v w : Volume}
    (h : v.toJson.isContained w.toJson = true) : v.name = w.name :=
  eq_of_isContained (isContained_iff.1 h).1 (by simp [members]) "name" (by simp [members])
    (by simp [members])

theorem Object.Volume.configMap_of_isContained {v w : Volume} {files : ConfigMapVolume}
    (there : v.configMap = some files) (h : v.toJson.isContained w.toJson = true) :
    ∃ files', w.configMap = some files' ∧ files.name = files'.name := by
  obtain ⟨files', hfiles, h⟩ := some_of_isContained (isContained_iff.1 h).1 (by simp [members])
    "configMap" ConfigMapVolume.toJson files w.configMap files.fits_none
    (by simp [members, there]) (by simp [members])
  exact ⟨files', hfiles, eq_of_isContained h (by simp) "name" (by simp) (by simp)⟩

/-- What a deployment asks for, apart from its pod. -/
def Object.DeploymentSpec.withoutPod (s : DeploymentSpec) : DeploymentSpec :=
  { s with template := { s.template with spec := none } }

/-- A specification is contained in another one if it is apart from the pod, and the pod is. -/
theorem Object.DeploymentSpec.isContained_iff {s t : DeploymentSpec} :
    s.toJson.isContained t.toJson = true ↔
      s.withoutPod.toJson.isContained t.withoutPod.toJson = true ∧
        MemberFits (s.template.spec.map PodSpec.toJson) (t.template.spec.map PodSpec.toJson) := by
  have none_fits : MemberFits (Option.map PodSpec.toJson none) (Option.map PodSpec.toJson none) ↔
      True := ⟨fun _ => trivial, fun _ j hj => nomatch hj⟩
  have htemplate : MemberFits (some s.template.toJson) (some t.template.toJson) ↔
      MemberFits (some s.withoutPod.template.toJson) (some t.withoutPod.template.toJson) ∧
        MemberFits (s.template.spec.map PodSpec.toJson) (t.template.spec.map PodSpec.toJson) := by
    simp only [MemberFits, Option.some.injEq, forall_eq', fits]
    unfold PodTemplate.toJson
    rw [record_isContained_iff_forall₂ (by rfl) (by simp),
      record_isContained_iff_forall₂ (by rfl) (by simp)]
    simp only [List.forall₂_cons, List.forall₂_nil_left_iff, withoutPod, none_fits]
    tauto
  unfold toJson
  rw [record_isContained_iff_forall₂ (by rfl) (by simp),
    record_isContained_iff_forall₂ (by rfl) (by simp)]
  simp only [List.forall₂_cons, List.forall₂_nil_left_iff, htemplate]
  simp only [withoutPod]
  tauto

/-- A deployment that has everything another one asks for has a pod with everything that one's pod
asks for, its lists all there. -/
theorem pod_of_agrees {wanted found : Deployment} {pod : PodSpec}
    (podded : Workload.podSpec? wanted = some pod)
    (h : deploymentSpecAgrees wanted.spec found.spec = true) :
    ∃ pod', Workload.podSpec? found = some pod' ∧
      (fillPod pod).toJson.isContained pod'.toJson = true := by
  obtain ⟨s, hs, hpod⟩ := Workload.podSpec?_eq_some.1 podded
  unfold deploymentSpecAgrees optionalJson at h
  rw [hs, Option.map_some, Option.map_some, Option.getD_some] at h
  cases hfound : found.spec with
  | none =>
    rw [hfound] at h
    cases h
  | some t =>
    rw [hfound, Option.map_some, Option.getD_some] at h
    have htemplate : (fillSpec s).template.toJson.fits (some t.template.toJson) = true :=
      fits_of_isContained h (by simp) "template" (by simp) (by simp)
    rw [fits] at htemplate
    obtain ⟨pod', hpod', h⟩ := some_of_isContained htemplate (by simp) "spec" PodSpec.toJson
      (fillPod pod) t.template.spec (fillPod pod).fits_none
      (by simp [fillSpec, hpod]) (by simp)
    exact ⟨pod', Workload.podSpec?_eq_some.2 ⟨t, hfound, hpod'⟩, h⟩

theorem volumes_of_isContained {pod pod' : PodSpec}
    (h : (fillPod pod).toJson.isContained pod'.toJson = true) :
    List.Forall₂ (fun v w => v.toJson.isContained w.toJson = true) (pod.volumes.getD [])
      (pod'.volumes.getD []) :=
  forall₂_of_isContained (PodSpec.isContained_iff.1 h).1 (by simp [PodSpec.members]) "volumes"
    Volume.toJson (pod.volumes.getD []) pod'.volumes (by simp [PodSpec.members, fillPod])
    (by simp [PodSpec.members])

theorem containers_of_isContained {pod pod' : PodSpec}
    (h : (fillPod pod).toJson.isContained pod'.toJson = true) :
    List.Forall₂ (fun c c' => (fillContainer c).toJson.isContained c'.toJson = true)
      pod.containers pod'.containers :=
  List.forall₂_map_left_iff.1 (forall₂_of_isContained (PodSpec.isContained_iff.1 h).1
    (by simp [PodSpec.members]) "containers" Container.toJson (pod.containers.map fillContainer)
    (some pod'.containers) (by simp [PodSpec.members, fillPod]) (by simp [PodSpec.members]))

/-- So for the containers that run first, where there are some. -/
theorem initContainers_of_isContained {pod pod' : PodSpec}
    (h : (fillPod pod).toJson.isContained pod'.toJson = true) {l : List Container}
    (there : pod.initContainers = some l) :
    List.Forall₂ (fun c c' => (fillContainer c).toJson.isContained c'.toJson = true) l
      (pod'.initContainers.getD []) :=
  List.forall₂_map_left_iff.1 (forall₂_of_isContained (PodSpec.isContained_iff.1 h).1
    (by simp [PodSpec.members]) "initContainers" Container.toJson (l.map fillContainer)
    pod'.initContainers (by simp [PodSpec.members, fillPod, there]) (by simp [PodSpec.members]))

section Container
variable {c c' : Container} (h : (fillContainer c).toJson.isContained c'.toJson = true)
include h

theorem Object.Container.name_of_isContained : c.name = c'.name :=
  eq_of_isContained (Container.isContained_iff.1 h).1 (by simp [members]) "name"
    (by simp [members, fillContainer]) (by simp [members])

theorem Object.Container.env_of_isContained :
    List.Forall₂ (fun e e' => e.toJson.isContained e'.toJson = true) (c.env.getD [])
      (c'.env.getD []) :=
  forall₂_of_isContained (Container.isContained_iff.1 h).1 (by simp [members]) "env" EnvVar.toJson
    (c.env.getD []) c'.env (by simp [members, fillContainer]) (by simp [members])

theorem Object.Container.envFrom_of_isContained :
    List.Forall₂ (fun e e' => e.toJson.isContained e'.toJson = true) (c.envFrom.getD [])
      (c'.envFrom.getD []) :=
  forall₂_of_isContained (Container.isContained_iff.1 h).1 (by simp [members]) "envFrom"
    EnvFrom.toJson (c.envFrom.getD []) c'.envFrom (by simp [members, fillContainer])
    (by simp [members])

theorem Object.Container.mounts_of_isContained :
    List.Forall₂ (fun v v' => v.toJson.isContained v'.toJson = true) (c.volumeMounts.getD [])
      (c'.volumeMounts.getD []) :=
  forall₂_of_isContained (Container.isContained_iff.1 h).1 (by simp [members]) "volumeMounts"
    Mount.toJson (c.volumeMounts.getD []) c'.volumeMounts (by simp [members, fillContainer])
    (by simp [members])

end Container

/-- A deployment that has everything another one asks for has no volumes but those asked for. -/
theorem volumes_of_agrees {wanted found : Deployment} {pod : PodSpec}
    (podded : Workload.podSpec? wanted = some pod)
    (h : deploymentSpecAgrees wanted.spec found.spec = true) :
    ∀ w ∈ found.volumes, ∃ v ∈ pod.volumes.getD [], v.toJson.isContained w.toJson = true := by
  obtain ⟨pod', hpod', h⟩ := pod_of_agrees podded h
  rw [Deployment.volumes_of_podSpec? hpod']
  exact exists_of_forall₂ (volumes_of_isContained h)

/-- Bringing a deployment to a wanted state stores no volumes but those wanted or found. -/
theorem Convergence.Ensured.volumes {faulty : Prop} {space name : String} {wanted : Deployment}
    {before after : Table Deployment} {x : Result Outcome} {verbs : List Verb}
    (h : Ensured faulty compareDeployment space name wanted before x verbs after)
    {space' name' : String} {d : Deployment} (there : after.get? space' name' = some d) :
    space' = space ∧ name' = name ∧ d.volumes = wanted.volumes ∨
      ∃ d', before.get? space' name' = some d' ∧ d.volumes = d'.volumes := by
  cases h with
  | created =>
    rw [get?_createdIn] at there
    split at there
    · next hplace =>
      cases there
      exact .inl ⟨hplace.1, hplace.2, rfl⟩
    · exact .inr ⟨d, there, rfl⟩
  | @updated found _ hfound _ differs =>
    rw [get?_replacedIn] at there
    split at there
    · next hplace =>
      obtain ⟨_, rfl⟩ := of_eq_differs.1 differs
      cases there
      by_cases hagrees : deploymentSpecAgrees wanted.spec found.spec = true
      · exact .inr ⟨found, hplace.1 ▸ hplace.2 ▸ hfound, Deployment.volumes_congr (if_pos hagrees)⟩
      · exact .inl ⟨hplace.1, hplace.2, Deployment.volumes_congr (if_neg hagrees)⟩
    · exact .inr ⟨d, there, rfl⟩
  | _ => exact .inr ⟨d, there, rfl⟩

end ServiceBinding
