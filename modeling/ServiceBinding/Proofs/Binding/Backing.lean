import ServiceBinding.Proofs.Binding.Settling
import ServiceBinding.Proofs.Binding.Turns

/-!
What the volumes of a swept pod rest on. A binding puts its files on the pod only together with its
secondary secret, so at every moment of a sweep each volume shows keys that a secret holds
(`Backed`): a binding that fails leaves both as they were, and one that is applied touches no other
secret.
-/
namespace ServiceBinding.Binding
open Cluster Convergence Crypto Object Projector Workload
variable {ρ : Type}

/-- Whether a volume shows files of the secondary secret of a declared binding, all of them under
keys that the owner's secret holds. -/
def IsBacked (i : Instance) (uid : String) (t : Table Secret) (v : Volume) : Prop :=
  ∃ b ∈ i.spec.bindings, ∃ items,
    v = filesVolume (secondaryName i.name b.name) b.name items ∧ ∀ item ∈ items, ∃ value,
      Holds uid (t.get? (spaceOf i) (secondaryName i.name b.name)) item.key value

/-- Whether all volumes of a pod are backed. -/
def Backed (i : Instance) (uid : String) (t : Table Secret) (pod : PodSpec) : Prop :=
  ∀ v ∈ pod.volumes.getD [], IsBacked i uid t v

section Sweeps
variable {faulty : Prop} {E : Equipment ρ} {i : Instance} {uid : String} {b : Binding}
  {p p' : Progress} {c : Container} {before after : Table Secret} {r r' : ρ}

/-- What backs a volume is the secret of its binding. -/
theorem IsBacked.mono {v : Volume} (h : IsBacked i uid before v)
    (same : ∀ b ∈ i.spec.bindings, v.name = volumeName b.name →
      after.get? (spaceOf i) (secondaryName i.name b.name) =
        before.get? (spaceOf i) (secondaryName i.name b.name)) : IsBacked i uid after v := by
  obtain ⟨b, hb, items, rfl, hitems⟩ := h
  refine ⟨b, hb, items, rfl, ?_⟩
  rw [same b hb rfl]
  exact hitems

/-- The volume of a binding that has just been applied. -/
theorem Drafted.isBacked {found : Option Secret} {pod pod' : PodSpec} {d : Draft} {v : Volume}
    {c' : Container} (declared : b ∈ i.spec.bindings)
    (drafted : Drafted E i b found pod r uid d r')
    (applied : Applied d.plan b.name E.settings.mountBase pod c pod' c')
    (rested : Rested i b.name uid d.plan.content
      (after.get? (spaceOf i) (secondaryName i.name b.name)))
    (hv : volume? pod' (volumeName b.name) = some v) : IsBacked i uid after v := by
  by_cases hitems : d.plan.items = []
  · cases hv.symm.trans (applied.hidden hitems).volume
  · obtain ⟨shown, hvolume, hsame, _⟩ := applied.shown hitems
    cases hv.symm.trans hvolume
    rw [(Plan.grows_gather drafted.gathered).secondary]
    refine ⟨b, declared, shown, rfl, fun item hi => ?_⟩
    have backed : d.plan.Backed := Plan.backed_of_gather (.empty _) drafted.gathered
    obtain ⟨value, hkey⟩ := backed item ((hsame item).1 hi)
    exact ⟨value, (rested.holds_iff drafted.identified).2 hkey⟩

/-- Projecting a binding that is new to a pod keeps the pod's volumes backed. -/
theorem Projected.backed {x : Result (PodSpec × String)} {verbs : List Verb}
    (identified : Workload.ownerUid i = .ok uid) (declared : b ∈ i.spec.bindings)
    (fitted : Fitted p.pod c) (fresh : Fresh b.name p.pod c)
    (h : Projected faulty E i b p.pod before r x verbs after r')
    (backed : Backed i uid before p.pod) : Backed i uid after (p.after b x).pod := by
  cases x with
  | error e =>
    rw [h.eq_of_error]
    exact backed
  | ok y =>
    obtain ⟨pod', conf⟩ := y
    have upheld := h.upheld identified
    obtain ⟨uid', d, drafted, rfl, _, settled⟩ := h.drafted
    cases identified.symm.trans drafted.identified
    obtain ⟨c', applied⟩ := Plan.applied_of_apply fitted fresh drafted.applied
    intro v hv
    have hfind : volume? d.pod v.name = some v := find?_name_of_mem applied.fitted.volumes hv
    by_cases hname : v.name = volumeName b.name
    · rw [hname] at hfind
      exact drafted.isBacked declared applied settled.rested hfind
    · rw [(applied.elsewhere _ hname).1] at hfind
      refine (backed v (List.mem_of_find?_eq_some hfind)).mono fun b' _ hb' => ?_
      refine upheld.elsewhere _ _ fun he => hname ?_
      rw [hb', secondaryName_inj.1 he.2]

theorem ProjectedEach.backed {bs : List Binding} {log : List Call}
    (identified : Workload.ownerUid i = .ok uid) (declared : bs ⊆ i.spec.bindings)
    (nodup : (bs.map (·.name)).Nodup) (fitted : Fitted p.pod c)
    (fresh : ∀ b ∈ bs, Fresh b.name p.pod c)
    (h : ProjectedEach faulty E i p before r bs p' log after r')
    (backed : Backed i uid before p.pod) : Backed i uid after p'.pod := by
  induction h generalizing c with
  | nil => exact backed
  | cons first _ ih =>
    rw [List.cons_subset] at declared
    rw [List.map_cons, List.nodup_cons] at nodup
    rw [List.forall_mem_cons] at fresh
    obtain ⟨c₁, fitted₁, kept₁⟩ := first.fitted fitted fresh.1
    exact ih declared.2 nodup.2 fitted₁ (kept₁.fresh_rest nodup.1 fresh.2)
      (first.backed identified declared.1 fitted fresh.1 backed)

/-- At the end of a sweep, all volumes that it has put on the pod are backed. -/
theorem Swept.backed {d : Deployment} {pod : PodSpec} {pruned : Result (List String)}
    {log : List Call} (identified : Workload.ownerUid i = .ok uid)
    (valid : i.spec.validate = .ok ()) (built : Workload.deployment i = .ok d)
    (podded : Workload.podSpec d = .ok pod)
    (h : Swept faulty E i pod before r p pruned log after r') : Backed i uid after p.pod := by
  obtain ⟨mid, each, gone, rfl, heach, hgone⟩ := h.split
  obtain ⟨c, fitted, hnone, fresh⟩ := fitted_of_deployment built podded
  have bare : Backed i uid before pod := by
    unfold Backed
    rw [hnone]
    exact List.forall_mem_nil _
  have hmid := heach.backed identified (List.Subset.refl _) (InstanceSpec.nodup_names valid)
    fitted (fun b _ => fresh b.name) bare
  exact fun v hv => (hmid v hv).mono fun b hb _ => hgone.declared hb

end Sweeps

/-! ### Configuration -/

/-- Mounting the configuration text adds the volume of its config map, if it goes through. -/
theorem volumes_of_mountConf {i : Instance} {uid : String} {t : Table Secret} {pod pod' : PodSpec}
    (backed : Backed i uid t pod) (h : (mountConf i pod).toResult = .ok pod') :
    ∀ v ∈ pod'.volumes.getD [], v ∈ pod.volumes.getD [] ∨
      v.projected = none ∧ ∃ files, v.configMap = some files ∧ files.name = confName i := by
  unfold mountConf at h
  rw [Merged.toResult_andThen, bind_eq_ok] at h
  obtain ⟨mid, hmid, h⟩ := h
  rw [volumes_of_inServer h]
  cases hfind : volume? pod confVolume with
  | none =>
    rw [addVolume_of_free hfind] at hmid
    cases hmid
    intro v hv
    refine (List.mem_append.1 hv).imp_right fun hv => ?_
    rw [List.mem_singleton.1 hv]
    exact ⟨rfl, _, rfl, rfl⟩
  | some known =>
    -- A volume of this name is one of files, which cannot be merged with a config map.
    obtain ⟨b, _, items, rfl, _⟩ := backed known (List.mem_of_find?_eq_some hfind)
    unfold addVolume at hmid
    dsimp only at hmid
    rw [show (pod.volumes.getD []).find? (·.name == confVolume) = _ from hfind] at hmid
    cases hmid

end ServiceBinding.Binding
