import ServiceBinding.Proofs.Outcome

/-!
Pods that are well-formed. Whatever the bindings are, and whichever of them fail, no two volumes,
mounts, mounted directories or variables of the pod that a sweep leaves clash, every mount is of a
volume of the pod, and the names of volumes are short enough (`wellFormed_projectAll`). The
configuration text keeps it so where it can be mounted. Directories differ because no binding name
has a slash or a dot: those of bindings end in different names, and that of the text ends in no
such name at all.
-/
namespace ServiceBinding
open Binding Cluster Convergence Crypto Object Workload
variable {ρ : Type}

/-- The longest name of a volume. -/
def maxVolumeName : Nat := 63

/-- Whether a container's mounts and variables have names and directories of their own, and each
mount is of one of some volumes. -/
structure Object.Container.WellFormed (volumes : List String) (c : Container) : Prop where
  env : ((c.env.getD []).map (·.name)).Nodup
  mounts : ((c.volumeMounts.getD []).map (·.name)).Nodup
  paths : ((c.volumeMounts.getD []).map (·.mountPath)).Nodup
  mounted : ∀ m ∈ c.volumeMounts.getD [], m.name ∈ volumes

/-- Whether a pod has the server's container alone, which is well-formed, and volumes with names of
their own that are short enough. -/
structure Object.PodSpec.WellFormed (pod : PodSpec) : Prop where
  volumes : ((pod.volumes.getD []).map (·.name)).Nodup
  short : ∀ v ∈ pod.volumes.getD [], v.name.utf8ByteSize ≤ maxVolumeName
  server : ∃ c, pod.containers = [c] ∧ c.name = serverContainer ∧
    c.WellFormed ((pod.volumes.getD []).map (·.name))

/-! ### Names -/

section Names
variable {name other mountBase : String}

theorem mem_of_isBindingName (valid : isBindingName name = true) {a : Char}
    (ha : a ∈ name.toList) : ('a' ≤ a ∧ a ≤ 'z') ∨ ('0' ≤ a ∧ a ≤ '9') ∨ a = '-' := by
  unfold isBindingName at valid
  simp only [Bool.and_eq_true, List.all_eq_true, Bool.or_eq_true, decide_eq_true_eq,
    beq_iff_eq] at valid
  exact or_assoc.1 (valid.1.1.2 a ha)

/-- The name of a binding's volume fits a label. -/
theorem size_volumeName (valid : isBindingName name = true) :
    (volumeName name).utf8ByteSize ≤ maxVolumeName := by
  unfold isBindingName at valid
  simp only [Bool.and_eq_true, decide_eq_true_eq] at valid
  have hsize : name.utf8ByteSize ≤ maxBindingName := valid.1.1.1.2
  unfold volumeName
  rw [String.utf8ByteSize_append]
  exact Nat.add_le_add_left hsize 8

theorem directory_inj : directory mountBase name = directory mountBase other ↔ name = other :=
  String.append_right_inj _

/-- No binding has its files where the configuration text is: the last part of that directory has a
dot. -/
theorem directory_ne_confDirectory (valid : isBindingName name = true) :
    directory mountBase name ≠ confDirectory := by
  intro he
  have hdot : '.' ∉ name.toList := fun h => by
    have := mem_of_isBindingName valid h
    revert this
    decide
  have hchars := congrArg (List.reverse ∘ String.toList) he
  unfold directory at hchars
  simp only [Function.comp_apply, String.toList_append, List.reverse_append] at hchars
  rw [← List.mem_reverse] at hdot
  rcases hname : name.toList.reverse with _ | ⟨a, _ | ⟨b, rest⟩⟩
  all_goals rw [hname] at hchars hdot
  · simp [confDirectory] at hchars
  · simp [confDirectory] at hchars
  · obtain ⟨_, rfl, _⟩ : a = 'd' ∧ b = '.' ∧ _ := by simpa [confDirectory] using hchars
    exact hdot (List.mem_cons_of_mem _ List.mem_cons_self)

end Names

/-! ### Mounts -/

/-- The mounts that an instance's container is given: those of its bindings' files, and that of the
configuration text. -/
inductive Given (mountBase : String) : Mount → Prop
  | files {name : String} (valid : isBindingName name = true) :
    Given mountBase (Plan.filesMount name mountBase)
  | conf : Given mountBase
      { name := confVolume, mountPath := confDirectory, readOnly := some true }

/-- Mounts at one directory are mounts of one name. -/
theorem Given.name_of_path {mountBase : String} {m m' : Mount} (h : Given mountBase m)
    (h' : Given mountBase m') (same : m.mountPath = m'.mountPath) : m.name = m'.name := by
  cases h with
  | files valid =>
    cases h' with
    | files => exact congrArg volumeName (directory_inj.1 same)
    | conf => exact absurd same (directory_ne_confDirectory valid)
  | conf =>
    cases h' with
    | files valid => exact absurd same.symm (directory_ne_confDirectory valid)
    | conf => rfl

/-- Whether a container runs the server and has given mounts only. -/
structure GivenMounts (mountBase : String) (c : Container) : Prop where
  server : c.name = serverContainer
  given : ∀ m ∈ c.volumeMounts.getD [], Given mountBase m

section Containers
variable {mountBase : String} {c c' : Container}

/-- Given mounts of different names are at different directories. -/
theorem GivenMounts.nodup_paths (h : GivenMounts mountBase c)
    (nodup : ((c.volumeMounts.getD []).map (·.name)).Nodup) :
    ((c.volumeMounts.getD []).map (·.mountPath)).Nodup :=
  List.pairwise_map.2 ((List.pairwise_map.1 nodup).imp_of_mem fun hm hm' ne same =>
    ne ((h.given _ hm).name_of_path (h.given _ hm') same))

theorem GivenMounts.addMount {m : Mount} (hm : Given mountBase m)
    (added : (addMount c m).toResult = .ok c') (h : GivenMounts mountBase c) :
    GivenMounts mountBase c' := by
  unfold Workload.addMount at added
  dsimp only at added
  split at added
  · cases added
    refine ⟨h.server, fun m' hm' => ?_⟩
    rcases List.mem_append.1 hm' with hm' | hm'
    · exact h.given m' hm'
    · exact List.mem_singleton.1 hm' ▸ hm
  · split at added
    · cases added
      exact ⟨h.server, h.given⟩
    · cases added

theorem GivenMounts.of_envKept (kept : EnvKept c c') (h : GivenMounts mountBase c) :
    GivenMounts mountBase c' := by
  rw [kept.rest]
  exact ⟨h.server, h.given⟩

theorem GivenMounts.equip {plan : Plan} {name : String} {templates : List String}
    (valid : isBindingName name = true)
    (equipped : (plan.equip name mountBase templates c).toResult = .ok c')
    (h : GivenMounts mountBase c) : GivenMounts mountBase c' := by
  obtain ⟨mounted, mid, hmounted, henv, htemplates⟩ := Plan.steps_of_equip equipped
  have hgiven : GivenMounts mountBase mounted := by
    rcases hmounted with ⟨-, rfl⟩ | ⟨-, hmounted⟩
    · exact h
    · exact h.addMount (.files valid) hmounted
  exact (hgiven.of_envKept (forEach_mergeEnv_eq_ok henv).1).of_envKept
    (envKept_of_addTemplates htemplates)

end Containers

/-- Whether a pod has the server's container alone, with given mounts only. -/
def MountsGiven (mountBase : String) (pod : PodSpec) : Prop :=
  ∃ c, pod.containers = [c] ∧ GivenMounts mountBase c

section Pods
variable {mountBase : String} {pod pod' : PodSpec}

/-- Applying a plan gives the pod no other mount. -/
theorem MountsGiven.apply {plan : Plan} {name : String} {templates : List String}
    (valid : isBindingName name = true)
    (applied : plan.apply name mountBase templates pod = .ok pod') (h : MountsGiven mountBase pod) :
    MountsGiven mountBase pod' := by
  obtain ⟨c, alone, hc⟩ := h
  obtain ⟨c', hc', alone'⟩ := plan.equip_of_apply alone hc.server applied
  exact ⟨c', alone', hc.equip valid hc'⟩

/-- The configuration text gives the pod its own mount. -/
theorem MountsGiven.mountConf {i : Instance} (mounted : (mountConf i pod).toResult = .ok pod')
    (h : MountsGiven mountBase pod) : MountsGiven mountBase pod' := by
  unfold Workload.mountConf at mounted
  dsimp only at mounted
  rw [Merged.toResult_andThen, bind_eq_ok] at mounted
  obtain ⟨mid, hmid, hserver⟩ := mounted
  obtain ⟨c, alone, hc⟩ := h
  rw [← containers_of_addVolume hmid] at alone
  rw [inServer_of_alone alone hc.server, Merged.toResult_within, map_eq_ok] at hserver
  obtain ⟨c', hc', rfl⟩ := hserver
  exact ⟨c', rfl, hc.addMount .conf hc'⟩

/-- The pod that instances start with has no mounts. -/
theorem mountsGiven_of_deployment {i : Instance} {d : Deployment}
    (built : Workload.deployment i = .ok d) (podded : Workload.podSpec d = .ok pod) :
    MountsGiven mountBase pod := by
  obtain ⟨c, hc, h⟩ := bind_eq_ok.1 built
  obtain ⟨m, _, h⟩ := bind_eq_ok.1 h
  cases h
  cases podded
  have bare : GivenMounts mountBase { name := serverContainer, image := some i.spec.image } :=
    ⟨rfl, nofun⟩
  exact ⟨c, rfl, bare.of_envKept (envKept_of_addTemplates hc)⟩

end Pods

/-! ### Sweeps -/

section Sweeps
variable {faulty : Prop} {E : Equipment ρ} {i : Instance} {before after : Table Secret} {r r' : ρ}

/-- No turn gives the pod another mount, whether it fails or not. -/
theorem Binding.ProjectedEach.mountsGiven {p p' : Projector.Progress} {bs : List Binding}
    {log : List Call} (valid : ∀ b ∈ bs, isBindingName b.name = true)
    (each : ProjectedEach faulty E i p before r bs p' log after r')
    (h : MountsGiven E.settings.mountBase p.pod) : MountsGiven E.settings.mountBase p'.pod := by
  induction each with
  | nil => exact h
  | @cons p p' _ _ _ _ _ _ b rest x _ _ first _ ih =>
    rw [List.forall_mem_cons] at valid
    refine ih valid.2 ?_
    cases x with
    | error e => exact h
    | ok y =>
      obtain ⟨pod, conf⟩ := y
      obtain ⟨uid, d, drafted, hx, _⟩ := first.drafted
      cases hx
      exact h.apply valid.1 drafted.applied

end Sweeps

/-! ### Pods that are well-formed -/

/-- A pod that lists the volumes of well-named bindings, and the configuration text's, and has given
mounts only is well-formed. -/
theorem wellFormed_of_lists {mountBase : String} {pod : PodSpec} {names env : List String}
    (listed : Lists pod names.eraseDups names.eraseDups env.eraseDups)
    (named : ∀ name ∈ names, name.utf8ByteSize ≤ maxVolumeName)
    (given : MountsGiven mountBase pod) : pod.WellFormed := by
  obtain ⟨c, alone, hc⟩ := given
  obtain ⟨c', alone', hc'⟩ := listed.container
  obtain rfl : c = c' := List.singleton_inj.1 (alone.symm.trans alone')
  have hmounts : ((c.volumeMounts.getD []).map (·.name)).Nodup := by
    rw [hc'.mounts]
    exact nodup_eraseDups names
  refine ⟨?_, fun v hv => ?_, c, alone, hc.server, ?_, hmounts, hc.nodup_paths hmounts,
    fun m hm => ?_⟩
  · rw [listed.volumes]
    exact nodup_eraseDups names
  · refine named _ (List.mem_eraseDups.1 ?_)
    rw [← listed.volumes]
    exact List.mem_map_of_mem hv
  · rw [hc'.env]
    exact nodup_eraseDups env
  · rw [listed.volumes, ← hc'.mounts]
    exact List.mem_map_of_mem hm

/-- **Pods are well-formed**: for every specification that has been checked, every mount base,
whatever the reader answers and whatever is stored or fails, the pod at the end of a sweep has
volumes of different, short names, and one container, with variables of different names and mounts
of different names, at different directories, each of a volume of the pod. So has the pod on which
the configuration text has been mounted, where that goes through. -/
theorem wellFormed_projectAll (E : Equipment ρ) (i : Instance) (valid : i.spec.validate = .ok ())
    (d : Deployment) (pod : PodSpec) (built : Workload.deployment i = .ok d)
    (podded : Workload.podSpec d = .ok pod) (c : Cluster) (r : ρ) :
    let swept := ((E.projector.projectAll i pod).run (c, r)).1.1
    swept.WellFormed ∧ ∀ pod', (mountConf i swept).toResult = .ok pod' → pod'.WellFormed := by
  intro swept
  obtain ⟨applied, hsub, _, _, hlists⟩ := Operator.lists_projectAll E valid built podded c r
  have hgiven : MountsGiven E.settings.mountBase swept := by
    obtain ⟨p, _, _, _, _, _, hswept, _, ⟨_, _, _, _, each, _⟩⟩ :=
      run_projectAll E i pod (c := c) (fun _ => trivial) r
    show MountsGiven _ ((E.projector.projectAll i pod).run (c, r)).1.1
    rw [hswept]
    exact each.mountsGiven (fun b hb => InstanceSpec.isBindingName_of_mem valid hb)
      (mountsGiven_of_deployment built podded)
  have hnamed : ∀ name ∈ applied.flatMap (·.files E.settings.mountBase),
      name.utf8ByteSize ≤ maxVolumeName := by
    intro name hname
    obtain ⟨b, hb, hfile⟩ := List.mem_flatMap.1 hname
    rw [(mem_files.1 hfile).2]
    exact size_volumeName (InstanceSpec.isBindingName_of_mem valid (hsub.subset hb))
  refine ⟨wellFormed_of_lists hlists hnamed hgiven, fun pod' mounted => ?_⟩
  refine wellFormed_of_lists (hlists.mountConf mounted) (fun name hname => ?_)
    (hgiven.mountConf mounted)
  rcases List.mem_append.1 hname with hname | hname
  · exact hnamed name hname
  · rw [List.mem_singleton.1 hname]
    decide

/-- The pod with the files of a password, next to which the configuration text is mounted. -/
theorem wellFormed_projectAll_passwordMounted :
    ∃ d pod pod', passwordMounted.spec.validate = .ok () ∧
      Workload.deployment passwordMounted = .ok d ∧ Workload.podSpec d = .ok pod ∧
      let swept :=
        ((Equipment.onePassword.projector.projectAll passwordMounted pod).run ({}, ())).1.1
      swept.volumes.isSome ∧ swept.WellFormed ∧
        (mountConf passwordMounted swept).toResult = .ok pod' ∧ pod'.WellFormed := by
  have valid : passwordMounted.spec.validate = .ok () := by decide +kernel
  let pod : PodSpec := { containers := [{ name := "nuxeo", image := some "nuxeo:latest" }] }
  obtain ⟨hswept, hmounted⟩ :=
    wellFormed_projectAll Equipment.onePassword passwordMounted valid _ pod rfl rfl {} ()
  let swept := ((Equipment.onePassword.projector.projectAll passwordMounted pod).run ({}, ())).1.1
  have mounts : (mountConf passwordMounted swept).toResult.isOk = true := by decide +kernel
  cases h : (mountConf passwordMounted swept).toResult with
  | error e =>
    rw [h] at mounts
    cases mounts
  | ok pod' => exact ⟨_, pod, pod', valid, rfl, rfl, by decide +kernel, hswept, h, hmounted _ h⟩

end ServiceBinding
