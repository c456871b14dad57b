import ServiceBinding.Proofs.Workload.Showing

/-!
What a pod lists, by name and in order. Every merge that goes through adds its name at the end, or
nothing if the name is there already; so the names of a pod are those of all contributions in the
order in which they were merged, each where it comes first (`listed_of_apply`).
-/
namespace ServiceBinding
open Object

/-! ### First occurrences -/

section Names
variable {α : Type} {f : α → String} {names : List String} {name : String}

theorem eraseDups_append_of_mem (h : name ∈ names) :
    (names ++ [name]).eraseDups = names.eraseDups := by
  rw [List.eraseDups_append]
  simp [List.removeAll, h]

theorem eraseDups_append_of_notMem (h : name ∉ names) :
    (names ++ [name]).eraseDups = names.eraseDups ++ [name] := by
  rw [List.eraseDups_append]
  simp [List.removeAll, h, List.eraseDups_cons]

/-- Where no name comes twice, all of them come first. -/
theorem eraseDups_of_nodup (nodup : names.Nodup) : names.eraseDups = names := by
  induction names with
  | nil => rfl
  | cons name rest ih =>
    rw [List.nodup_cons] at nodup
    have hrest : rest.filter (fun other => !other == name) = rest :=
      List.filter_eq_self.2 fun other ho => by
        simp only [Bool.not_eq_true', beq_eq_false_iff_ne]
        exact fun he => nodup.1 (he ▸ ho)
    rw [List.eraseDups_cons, hrest, ih nodup.2]

/-- No name comes first twice. -/
theorem nodup_eraseDups (names : List String) : names.eraseDups.Nodup := by
  match names with
  | [] => exact List.nodup_nil
  | name :: rest =>
    rw [List.eraseDups_cons]
    refine List.nodup_cons.2 ⟨fun hmem => ?_, nodup_eraseDups _⟩
    simp [List.mem_eraseDups] at hmem
termination_by names.length
decreasing_by simpa using Nat.lt_succ_of_le (List.length_filter_le _ _)

/-- Another element under a free name comes last. -/
theorem map_append_free {l : List α} (listed : l.map f = names.eraseDups) {a : α}
    (free : l.find? (f · == f a) = none) : (l ++ [a]).map f = (names ++ [f a]).eraseDups := by
  have h : f a ∉ names := by
    rw [← List.mem_eraseDups, ← listed]
    exact find?_name_eq_none.1 free
  rw [List.map_append, List.map_singleton, listed, eraseDups_append_of_notMem h]

/-- The name of an element that is there is no new one. -/
theorem eraseDups_append_known {l : List α} (listed : l.map f = names.eraseDups) {known : α}
    (there : l.find? (f · == name) = some known) :
    (names ++ [name]).eraseDups = names.eraseDups := by
  refine eraseDups_append_of_mem ?_
  rw [← List.mem_eraseDups, ← listed]
  by_contra hn
  rw [find?_name_eq_none.2 hn] at there
  cases there

end Names

namespace Workload

/-! ### Merges -/

theorem names_addVolume {pod pod' : PodSpec} {v : Volume} {names : List String}
    (h : (addVolume pod v).toResult = .ok pod')
    (listed : (pod.volumes.getD []).map (·.name) = names.eraseDups) :
    pod'.containers = pod.containers ∧
      (pod'.volumes.getD []).map (·.name) = (names ++ [v.name]).eraseDups := by
  unfold addVolume at h
  rw [Merged.toResult_within, map_eq_ok] at h
  obtain ⟨volumes, h, rfl⟩ := h
  refine ⟨rfl, ?_⟩
  cases hv : (pod.volumes.getD []).find? (·.name == v.name) with
  | none =>
    rw [hv] at h
    cases h
    exact map_append_free listed hv
  | some known =>
    rw [hv] at h
    dsimp only at h
    rw [Merged.toResult_within, map_eq_ok] at h
    obtain ⟨merged, hm, rfl⟩ := h
    have hknown : (known.name == v.name) = true :=
      List.find?_some (p := fun known : Volume => known.name == v.name) hv
    rw [eraseDups_append_known listed hv, ← listed]
    exact map_replaceFirst ((mergeVolume_name hm).trans (beq_iff_eq.1 hknown))

/-- Whether a container runs the server and has mounts and variables of some names, in order. -/
structure Equips (c : Container) (mounts env : List String) : Prop where
  server : c.name = serverContainer
  mounts : (c.volumeMounts.getD []).map (·.name) = mounts
  env : (c.env.getD []).map (·.name) = env

section Containers
variable {c c' : Container} {mounts env : List String}

theorem Equips.addMount {m : Mount} (h : (addMount c m).toResult = .ok c')
    (listed : Equips c mounts.eraseDups env) : Equips c' (mounts ++ [m.name]).eraseDups env := by
  unfold Workload.addMount at h
  dsimp only at h
  cases hm : (c.volumeMounts.getD []).find? (·.name == m.name) with
  | none =>
    rw [hm] at h
    cases h
    exact ⟨listed.server, map_append_free listed.mounts hm, listed.env⟩
  | some known =>
    rw [hm] at h
    dsimp only at h
    split at h
    · cases h
      rw [eraseDups_append_known listed.mounts hm]
      exact ⟨listed.server, listed.mounts, listed.env⟩
    · cases h

theorem Equips.mergeEnv {var : EnvVar} {delimiter : Option String}
    (h : (mergeEnv c var delimiter).toResult = .ok c')
    (listed : Equips c mounts env.eraseDups) : Equips c' mounts (env ++ [var.name]).eraseDups := by
  obtain ⟨hrest, hnames⟩ := names_mergeEnv h
  refine ⟨?_, ?_, ?_⟩
  · rw [hrest]
    exact listed.server
  · rw [hrest]
    exact listed.mounts
  · rcases hnames with ⟨⟨known, hv⟩, hnames⟩ | ⟨free, hnames⟩
    · rw [hnames, listed.env, eraseDups_append_known listed.env hv]
    · rw [hnames, ← map_append_free listed.env (a := var) free, List.map_append]
      rfl

theorem Equips.forEach_mergeEnv {β : Type} (make : β → EnvVar) {added : List β}
    {delimiter : Option String}
    (h : (Merged.forEach (fun c b => Workload.mergeEnv c (make b) delimiter) c
      added).toResult = .ok c')
    (listed : Equips c mounts env.eraseDups) :
    Equips c' mounts (env ++ added.map fun b => (make b).name).eraseDups := by
  refine Merged.forEach_induction (R := fun before mid =>
    Equips mid mounts (env ++ before.map fun b => (make b).name).eraseDups) ?_ ?_ h
  · rw [List.map_nil, List.append_nil]
    exact listed
  · intro before b mid mid' _ listed hmid
    rw [List.map_append, ← List.append_assoc]
    exact listed.mergeEnv hmid

end Containers

/-- Whether a pod has one container, which runs the server, and lists volumes, mounts and variables
of some names, in order. -/
structure Lists (pod : PodSpec) (volumes mounts env : List String) : Prop where
  volumes : (pod.volumes.getD []).map (·.name) = volumes
  container : ∃ c, pod.containers = [c] ∧ Equips c mounts env

section Pods
variable {pod pod' : PodSpec} {volumes mounts env : List String}

theorem Lists.addVolume {v : Volume} (h : (addVolume pod v).toResult = .ok pod')
    (listed : Lists pod volumes.eraseDups mounts env) :
    Lists pod' (volumes ++ [v.name]).eraseDups mounts env := by
  obtain ⟨hcontainers, hvolumes⟩ := names_addVolume h listed.volumes
  exact ⟨hvolumes, hcontainers ▸ listed.container⟩

theorem Lists.inServer {mounts' env' : List String} {merge : Container → Merged Container}
    (h : (inServer pod merge).toResult = .ok pod') (listed : Lists pod volumes mounts env)
    (equips : ∀ {c c'}, Equips c mounts env → (merge c).toResult = .ok c' →
      Equips c' mounts' env') : Lists pod' volumes mounts' env' := by
  obtain ⟨c, alone, hc⟩ := listed.container
  rw [inServer_of_alone alone hc.server, Merged.toResult_within, map_eq_ok] at h
  obtain ⟨c', hc', rfl⟩ := h
  exact ⟨listed.volumes, c', rfl, equips hc hc'⟩

/-- The configuration text is mounted under one name. -/
theorem Lists.mountConf {i : Instance} (h : (mountConf i pod).toResult = .ok pod')
    (listed : Lists pod volumes.eraseDups mounts.eraseDups env) :
    Lists pod' (volumes ++ [confVolume]).eraseDups (mounts ++ [confVolume]).eraseDups env := by
  unfold Workload.mountConf at h
  dsimp only at h
  rw [Merged.toResult_andThen, bind_eq_ok] at h
  obtain ⟨mid, hmid, h⟩ := h
  exact (listed.addVolume hmid).inServer h fun hc hc' => hc.addMount hc'

end Pods

end Workload

/-! ### Agreement -/

section Agreement
open Cluster Convergence Json Workload
variable {volumes mounts env : List String}

/-- A container that has everything another one asks for, its lists all there, lists the same. -/
theorem Workload.Equips.of_isContained {c c' : Container} (listed : Equips c mounts env)
    (h : (fillContainer c).toJson.isContained c'.toJson = true) : Equips c' mounts env := by
  refine ⟨(Container.name_of_isContained h).symm.trans listed.server, ?_, ?_⟩
  · rw [← listed.mounts]
    exact (map_eq_of_forall₂ (fun h => eq_of_isContained h (by simp) "name" (by simp) (by simp))
      (Container.mounts_of_isContained h)).symm
  · rw [← listed.env]
    exact (map_eq_of_forall₂ (fun h => eq_of_isContained h (by simp) "name" (by simp) (by simp))
      (Container.env_of_isContained h)).symm

theorem Workload.Lists.of_isContained {pod pod' : PodSpec} (listed : Lists pod volumes mounts env)
    (h : (fillPod pod).toJson.isContained pod'.toJson = true) : Lists pod' volumes mounts env := by
  obtain ⟨c, alone, hc⟩ := listed.container
  refine ⟨?_, ?_⟩
  · rw [← listed.volumes]
    exact (map_eq_of_forall₂ (fun h => Volume.name_of_isContained h)
      (volumes_of_isContained h)).symm
  · have hcontainers := containers_of_isContained h
    rw [alone] at hcontainers
    obtain ⟨c', rest, hc', hrest, hpod'⟩ := List.forall₂_cons_left_iff.1 hcontainers
    cases hrest
    exact ⟨c', hpod', hc.of_isContained hc'⟩

/-- A deployment that has been brought to a wanted state lists what the pod wanted does. -/
theorem Convergence.Ensured.lists {faulty : Prop} {space name : String} {wanted : Deployment}
    {pod : PodSpec} (podded : podSpec? wanted = some pod)
    (listed : Lists pod volumes mounts env) {before after : Table Deployment} {o : Outcome}
    {verbs : List Verb}
    (h : Ensured faulty compareDeployment space name wanted before (.ok o) verbs after) :
    ∃ found pod', after.get? space name = some found ∧ podSpec? found = some pod' ∧
      Lists pod' volumes mounts env := by
  have agrees {found : Deployment}
      (h : deploymentSpecAgrees wanted.spec found.spec = true) :
      ∃ pod', podSpec? found = some pod' ∧ Lists pod' volumes mounts env := by
    obtain ⟨pod', hpod', h⟩ := pod_of_agrees podded h
    exact ⟨pod', hpod', listed.of_isContained h⟩
  cases h with
  | created =>
    refine ⟨Table.withVersion wanted "1", pod, ?_, podded, listed⟩
    rw [get?_createdIn, if_pos ⟨rfl, rfl⟩]
  | @unchanged found there _ equal =>
    have hsame := of_eq_equal.1 equal
    rw [Bool.and_eq_true] at hsame
    obtain ⟨pod', hpod', hlisted⟩ := agrees hsame.2
    exact ⟨found, pod', there, hpod', hlisted⟩
  | @updated found _ there _ differs =>
    obtain ⟨_, rfl⟩ := of_eq_differs.1 differs
    by_cases hspec : deploymentSpecAgrees wanted.spec found.spec = true
    · obtain ⟨pod', hpod', hlisted⟩ := agrees hspec
      refine ⟨_, pod', by rw [get?_replacedIn, if_pos ⟨rfl, rfl⟩], ?_, hlisted⟩
      rw [← hpod']
      exact congrArg (Option.bind · _) (if_pos hspec)
    · refine ⟨_, pod, by rw [get?_replacedIn, if_pos ⟨rfl, rfl⟩], ?_, listed⟩
      rw [← podded]
      exact congrArg (Option.bind · _) (if_neg hspec)

end Agreement

namespace Binding
open Workload

/-- What a plan gives under the name of the binding's volume: that name, if it has files. -/
def Plan.files (plan : Plan) (binding : String) : List String :=
  if plan.items.isEmpty then [] else [volumeName binding]

section Plans
variable {plan : Plan} {binding mountBase : String} {templates volumes mounts env : List String}

/-- However many items a volume shows, it is one. -/
theorem listed_of_forEach_addVolume {items : List Item} {pod pod' : PodSpec}
    (h : (Merged.forEach (fun pod item => addVolume pod (plan.itemVolume binding item)) pod
      items).toResult = .ok pod') (listed : Lists pod volumes.eraseDups mounts env) :
    Lists pod' (volumes ++ if items.isEmpty then [] else [volumeName binding]).eraseDups
      mounts env := by
  induction items generalizing pod volumes with
  | nil =>
    cases h
    rw [List.isEmpty_nil, if_pos rfl, List.append_nil]
    exact listed
  | cons item rest ih =>
    obtain ⟨mid, hmid, h⟩ := Merged.forEach_cons_eq_ok.1 h
    have hrest := ih h (listed.addVolume hmid)
    rw [List.isEmpty_cons, if_neg Bool.false_ne_true]
    split at hrest
    · rw [List.append_nil] at hrest
      exact hrest
    · have hmem : volumeName binding ∈ volumes ++ [volumeName binding] :=
        List.mem_append_right _ (List.mem_singleton_self _)
      rw [show (plan.itemVolume binding item).name = volumeName binding from rfl,
        eraseDups_append_of_mem hmem] at hrest
      exact hrest

theorem equips_of_equip {c c' : Container}
    (h : (plan.equip binding mountBase templates c).toResult = .ok c')
    (listed : Equips c mounts.eraseDups env.eraseDups) :
    Equips c' (mounts ++ plan.files binding).eraseDups
      (env ++ (plan.env.map (·.name) ++ templates.map fun _ => templatesVariable)).eraseDups := by
  obtain ⟨mounted, mid, hmounted, hmid, h⟩ := Plan.steps_of_equip h
  have hmounts : Equips mounted (mounts ++ plan.files binding).eraseDups env.eraseDups := by
    unfold Plan.files
    rcases hmounted with ⟨hempty, rfl⟩ | ⟨hne, hmounted⟩
    · rw [if_pos (List.isEmpty_iff.2 hempty), List.append_nil]
      exact listed
    · rw [if_neg (mt List.isEmpty_iff.1 hne)]
      exact listed.addMount hmounted
  rw [← List.append_assoc]
  exact (hmounts.forEach_mergeEnv id hmid).forEach_mergeEnv (EnvVar.plain templatesVariable) h

/-- Applying a plan adds the names of what it gives. -/
theorem listed_of_apply {pod pod' : PodSpec}
    (h : plan.apply binding mountBase templates pod = .ok pod')
    (listed : Lists pod volumes.eraseDups mounts.eraseDups env.eraseDups) :
    Lists pod' (volumes ++ plan.files binding).eraseDups (mounts ++ plan.files binding).eraseDups
      (env ++ (plan.env.map (·.name) ++ templates.map fun _ => templatesVariable)).eraseDups := by
  unfold Plan.apply at h
  rw [Merged.toResult_andThen, bind_eq_ok] at h
  obtain ⟨mid, hmid, h⟩ := h
  exact (listed_of_forEach_addVolume hmid listed).inServer h fun hc hc' => equips_of_equip hc' hc

end Plans

end Binding

end ServiceBinding
