import ServiceBinding.Binding.Plan
import ServiceBinding.Proofs.Workload.Merging

/-!
Applying a plan to a pod. As long as the pod knows nothing of the binding, applying its plan adds
one volume with all of its files, one mount of that volume, and the variables (`Applied`); what
the pod has under other names stays as it is, the list of templates apart.
-/
namespace ServiceBinding.Binding
open Object Workload

/-- The source of a projected volume that shows some items of a secret. -/
def secretSourceOf (name : String) (items : List Item) : ProjectedSource :=
  { secret := some { name := name, items := some items } }

/-- The volume that shows some items of the secondary secret of a binding. -/
def filesVolume (secondary binding : String) (items : List Item) : Volume :=
  { name := volumeName binding
    projected := some {
      sources := some [secretSourceOf secondary items] } }

theorem addSource_secretSourceOf (context name : String) (items : List Item) (item : Item) :
    addSource context [secretSourceOf name items] (secretSourceOf name [item]) =
      (addItem context items item).within fun items => [secretSourceOf name items] := by
  have hsame : isSameObject (secretSourceOf name items) (secretSourceOf name [item]) = true :=
    beq_self_eq_true name
  have hitems : mergeSource context (secretSourceOf name items) (secretSourceOf name [item]) =
      (addItem context items item).within (secretSourceOf name) := by
    unfold mergeSource mergeItems secretSourceOf
    dsimp only [Option.getD_some]
    rw [Merged.forEach_singleton]
    rfl
  unfold addSource
  rw [List.find?_singleton, if_pos hsame]
  dsimp only
  rw [hitems]
  simp only [replaceFirst, hsame, if_true]
  rfl

/-- Showing one more item of the same secret. -/
theorem mergeVolume_filesVolume (secondary binding : String) (items : List Item) (item : Item) :
    mergeVolume (filesVolume secondary binding items) (filesVolume secondary binding [item]) =
      (addItem ("volume " ++ volumeName binding) items item).within
        (filesVolume secondary binding) := by
  have hkind : ∀ items, (filesVolume secondary binding items).sourceKind? = some .projected :=
    fun _ => rfl
  unfold mergeVolume
  rw [hkind, hkind]
  simp only [ne_eq, not_true, if_false]
  unfold mergeProjected filesVolume
  simp only [ne_eq, not_true, false_and, if_false, Option.getD_some, Merged.forEach_singleton,
    addSource_secretSourceOf]
  rfl

/-! ### Pods -/

/-- A pod with the server's container alone, in which no two volumes, mounts or variables have the
same name. -/
structure Fitted (pod : PodSpec) (c : Container) : Prop where
  alone : pod.containers = [c]
  server : c.name = serverContainer
  volumes : ((pod.volumes.getD []).map (·.name)).Nodup
  mounts : ((c.volumeMounts.getD []).map (·.name)).Nodup
  env : ((c.env.getD []).map (·.name)).Nodup

/-- Whether a pod knows nothing of a binding yet. -/
structure Fresh (binding : String) (pod : PodSpec) (c : Container) : Prop where
  volume : volume? pod (volumeName binding) = none
  mount : mount? c (volumeName binding) = none

/-- The pod that instances start with has the server's container and no volumes. -/
theorem fitted_of_deployment {i : Instance} {d : Deployment} {pod : PodSpec}
    (built : Workload.deployment i = .ok d) (podded : Workload.podSpec d = .ok pod) :
    ∃ c, Fitted pod c ∧ pod.volumes = none ∧ ∀ binding, Fresh binding pod c := by
  obtain ⟨c, hc, h⟩ := bind_eq_ok.1 built
  obtain ⟨m, _, h⟩ := bind_eq_ok.1 h
  cases h
  cases podded
  have hkept := envKept_of_addTemplates hc
  refine ⟨c, ⟨rfl, ?_, List.nodup_nil, ?_, hkept.nodup List.nodup_nil⟩, rfl,
    fun binding => ⟨rfl, ?_⟩⟩
  all_goals rw [hkept.rest]
  · exact List.nodup_nil
  · rfl

/-! ### Volumes -/

section Volumes
variable {secondary binding : String} {pod pod' : PodSpec}

/-- Items that are added to a volume that is there end up in it together. -/
theorem forEach_addFile_eq_ok {volumes : List Volume} {items added : List Item}
    (free : volumes.find? (·.name == volumeName binding) = none)
    (h : (Merged.forEach (fun pod item => addVolume pod (filesVolume secondary binding [item]))
      { pod with volumes := some (volumes ++ [filesVolume secondary binding items]) }
      added).toResult = .ok pod') :
    ∃ items', (Merged.forEach (addItem ("volume " ++ volumeName binding)) items added).toResult =
      .ok items' ∧
        pod' =
          { pod with volumes := some (volumes ++ [filesVolume secondary binding items']) } := by
  induction added generalizing items with
  | nil =>
    cases h
    exact ⟨items, rfl, rfl⟩
  | cons item rest ih =>
    obtain ⟨mid, hmid, h⟩ := Merged.forEach_cons_eq_ok.1 h
    rw [addVolume_of_last pod (filesVolume secondary binding items)
      (filesVolume secondary binding [item]) free rfl, mergeVolume_filesVolume,
      Merged.toResult_within, Merged.toResult_within, map_eq_ok] at hmid
    obtain ⟨v, hv, rfl⟩ := hmid
    obtain ⟨items₁, hitem, rfl⟩ := map_eq_ok.1 hv
    obtain ⟨items', hrest, hpod⟩ := ih h
    exact ⟨items', Merged.forEach_cons_eq_ok.2 ⟨items₁, hitem, hrest⟩, hpod⟩

/-- The files of a binding that is new to a pod are what its volume shows, and no two of them have
the same name. Other volumes are as they were. -/
theorem forEach_addVolume_eq_ok {items : List Item}
    (free : volume? pod (volumeName binding) = none)
    (h : (Merged.forEach (fun pod item => addVolume pod (filesVolume secondary binding [item])) pod
      items).toResult = .ok pod') :
    ∃ volumes, pod' = { pod with volumes := volumes } ∧
      (((pod.volumes.getD []).map (·.name)).Nodup →
        ((volumes.getD []).map (·.name)).Nodup) ∧
      (∀ name, name ≠ volumeName binding → volume? pod' name = volume? pod name) ∧
      (items = [] → volume? pod' (volumeName binding) = none) ∧
      (items ≠ [] → ∃ shown, volume? pod' (volumeName binding) =
        some (filesVolume secondary binding shown) ∧ (∀ item, item ∈ shown ↔ item ∈ items) ∧
          (shown.map (·.path)).Nodup) := by
  cases items with
  | nil =>
    cases h
    exact ⟨pod.volumes, rfl, id, fun _ _ => rfl, fun _ => free, fun h => absurd rfl h⟩
  | cons item rest =>
    obtain ⟨mid, hmid, h⟩ := Merged.forEach_cons_eq_ok.1 h
    rw [addVolume_of_free (v := filesVolume secondary binding [item]) free] at hmid
    cases hmid
    obtain ⟨shown, hshown, rfl⟩ := forEach_addFile_eq_ok free h
    obtain ⟨hitems, hnodup⟩ := forEach_addItem_eq_ok hshown
    have hfind := find?_append_new
      (show (pod.volumes.getD []).find?
        (·.name == (filesVolume secondary binding shown).name) = none from free)
    refine ⟨_, rfl, fun nodup => nodup_append_new nodup free, fun name hn => ?_, nofun, fun _ =>
      ⟨shown, ?_, fun x => ?_, hnodup (List.pairwise_singleton _ _)⟩⟩
    · exact (hfind name).trans (if_neg hn)
    · exact (hfind _).trans (if_pos rfl)
    · rw [hitems, List.mem_singleton, List.mem_cons]

end Volumes

/-! ### Plans -/

/-- What a pod has once a plan has been applied to it. -/
structure Applied (plan : Plan) (binding mountBase : String) (pod : PodSpec) (c : Container)
    (pod' : PodSpec) (c' : Container) : Prop where
  fitted : Fitted pod' c'
  /-- Other volumes and mounts are as they were. -/
  elsewhere : ∀ name, name ≠ volumeName binding →
    volume? pod' name = volume? pod name ∧ mount? c' name = mount? c name
  /-- Variables are kept, the list of templates apart. -/
  kept : ∀ name var, name ≠ templatesVariable → envVar? c name = some var →
    envVar? c' name = some var
  hidden : plan.items = [] → Fresh binding pod' c'
  /-- All files are shown in one volume, which is mounted. -/
  shown : plan.items ≠ [] → ∃ shown, volume? pod' (volumeName binding) =
    some (filesVolume plan.secondary binding shown) ∧ (∀ item, item ∈ shown ↔ item ∈ plan.items) ∧
      (shown.map (·.path)).Nodup ∧
        mount? c' (volumeName binding) = some (Plan.filesMount binding mountBase)
  exposed : ∀ var ∈ plan.env, var.name ≠ templatesVariable → envVar? c' var.name = some var

namespace Plan
variable {plan : Plan} {binding mountBase : String} {templates : List String}

/-- A container is equipped in three steps: a mount if there are files, variables, templates. -/
theorem steps_of_equip {c c' : Container}
    (h : (plan.equip binding mountBase templates c).toResult = .ok c') : ∃ mounted exposed,
      (plan.items = [] ∧ mounted = c ∨ plan.items ≠ [] ∧
        (addMount c (filesMount binding mountBase)).toResult = .ok mounted) ∧
      (Merged.forEach (mergeEnv · · none) mounted plan.env).toResult = .ok exposed ∧
      (addTemplates exposed templates).toResult = .ok c' := by
  unfold equip at h
  rw [Merged.toResult_andThen, bind_eq_ok] at h
  obtain ⟨exposed, henv, h⟩ := h
  rw [Merged.toResult_andThen, bind_eq_ok] at henv
  obtain ⟨mounted, hmounted, henv⟩ := henv
  refine ⟨mounted, exposed, ?_, henv, h⟩
  split at hmounted
  · next hempty =>
    cases hmounted
    exact .inl ⟨List.isEmpty_iff.1 hempty, rfl⟩
  · next hempty => exact .inr ⟨mt List.isEmpty_iff.2 hempty, hmounted⟩

/-- What a container has once it has been equipped. -/
structure Equipped (plan : Plan) (binding mountBase : String) (c c' : Container) : Prop where
  name : c'.name = c.name
  mounts : ((c.volumeMounts.getD []).map (·.name)).Nodup →
    ((c'.volumeMounts.getD []).map (·.name)).Nodup
  env : ((c.env.getD []).map (·.name)).Nodup → ((c'.env.getD []).map (·.name)).Nodup
  elsewhere : ∀ name, name ≠ volumeName binding → mount? c' name = mount? c name
  kept : ∀ name var, name ≠ templatesVariable → envVar? c name = some var →
    envVar? c' name = some var
  unmounted : plan.items = [] → mount? c' (volumeName binding) = none
  mounted : plan.items ≠ [] → mount? c' (volumeName binding) = some (filesMount binding mountBase)
  exposed : ∀ var ∈ plan.env, var.name ≠ templatesVariable → envVar? c' var.name = some var

theorem equipped_of_equip {c c' : Container} (free : mount? c (volumeName binding) = none)
    (h : (plan.equip binding mountBase templates c).toResult = .ok c') :
    Equipped plan binding mountBase c c' := by
  obtain ⟨mounted, mid, hmounted, hmid, h⟩ := steps_of_equip h
  obtain ⟨hadded, hexposed⟩ := forEach_mergeEnv_eq_ok hmid
  have hlisted := envKept_of_addTemplates h
  have hkept := hadded.trans hlisted
  have hexposed' : ∀ var ∈ plan.env, var.name ≠ templatesVariable →
      envVar? c' var.name = some var :=
    fun var hv hn => hlisted.kept _ _ hn (hexposed var hv hn)
  have hmount : ∀ name, mount? c' name = mount? mounted name := by
    intro name
    rw [hkept.rest]
    rfl
  have hmounts : c'.volumeMounts = mounted.volumeMounts := by
    rw [hkept.rest]
  have hname : c'.name = mounted.name := by
    rw [hkept.rest]
  rcases hmounted with ⟨hempty, rfl⟩ | ⟨hne, hmounted⟩
  · exact ⟨hname, fun h => hmounts ▸ h, hkept.nodup, fun name _ => hmount name, hkept.kept,
      fun _ => (hmount _).trans free, absurd hempty, hexposed'⟩
  · rw [addMount_of_free (m := filesMount binding mountBase) free] at hmounted
    cases hmounted
    have hfind := find?_append_new (f := Mount.name) (a := filesMount binding mountBase) free
    refine ⟨hname, fun nodup => ?_, hkept.nodup, fun name hn => ?_, hkept.kept,
      fun h => absurd h hne, fun _ => ?_, hexposed'⟩
    · rw [hmounts]
      exact nodup_append_new nodup free
    · rw [hmount]
      exact (hfind name).trans (if_neg hn)
    · rw [hmount]
      exact (hfind _).trans (if_pos rfl)

/-- Applying a plan equips the server's container. -/
theorem equip_of_apply {pod pod' : PodSpec} {c : Container} (alone : pod.containers = [c])
    (server : c.name = serverContainer)
    (h : plan.apply binding mountBase templates pod = .ok pod') :
    ∃ c', (plan.equip binding mountBase templates c).toResult = .ok c' ∧
      pod'.containers = [c'] := by
  unfold apply at h
  rw [Merged.toResult_andThen, bind_eq_ok] at h
  obtain ⟨mid, hmid, h⟩ := h
  rw [← containers_of_forEach_addVolume hmid] at alone
  rw [inServer_of_alone alone server, Merged.toResult_within, map_eq_ok] at h
  obtain ⟨c', hc', rfl⟩ := h
  exact ⟨c', hc', rfl⟩

theorem applied_of_apply {pod pod' : PodSpec} {c : Container} (fitted : Fitted pod c)
    (fresh : Fresh binding pod c)
    (h : plan.apply binding mountBase templates pod = .ok pod') :
    ∃ c', Applied plan binding mountBase pod c pod' c' := by
  unfold apply at h
  rw [Merged.toResult_andThen, bind_eq_ok] at h
  obtain ⟨mid, hmid, h⟩ := h
  have hfiles : (Merged.forEach (fun pod item =>
      addVolume pod (filesVolume plan.secondary binding [item])) pod plan.items).toResult =
      .ok mid := hmid
  obtain ⟨volumes, rfl, hvolumes, helsewhere, hhidden, hshown⟩ :=
    forEach_addVolume_eq_ok fresh.volume hfiles
  have alone : ({ pod with volumes := volumes } : PodSpec).containers = [c] := fitted.alone
  rw [inServer_of_alone alone fitted.server, Merged.toResult_within, map_eq_ok] at h
  obtain ⟨c', hc', rfl⟩ := h
  have hequipped := equipped_of_equip fresh.mount hc'
  refine ⟨c', ⟨rfl, hequipped.name.trans fitted.server, hvolumes fitted.volumes,
    hequipped.mounts fitted.mounts, hequipped.env fitted.env⟩, fun name hn =>
    ⟨helsewhere name hn, hequipped.elsewhere name hn⟩, hequipped.kept,
    fun hitems => ⟨hhidden hitems, hequipped.unmounted hitems⟩, fun hitems => ?_,
    hequipped.exposed⟩
  obtain ⟨shown, hvolume, hsame, hpaths⟩ := hshown hitems
  exact ⟨shown, hvolume, hsame, hpaths, hequipped.mounted hitems⟩

end Plan

end ServiceBinding.Binding
