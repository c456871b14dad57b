import ServiceBinding.Proofs.Binding.Alike
import ServiceBinding.Proofs.Ownership

/-!
What a pass sees of a cluster: the places of its instance's secondary secrets, of its config map and
of its deployment. In two clusters that hold the same objects in these places (`LooksAlike`), and
where no call fails, a pass comes to the same, and does the same to these places. The secrets of the
cluster elsewhere show in its cleaning up only, and that decides nothing.
-/
namespace ServiceBinding
open Binding Cluster Convergence Object
variable {ρ α : Type}

/-- Whether two clusters look alike to passes over an instance: no calls fail in either, and the
places that the passes work on hold the same objects. -/
structure LooksAlike (i : Instance) (c c' : Cluster) : Prop where
  quiet : c.faults = []
  quiet' : c'.faults = []
  secrets : AgreeOn (fun space name => space = spaceOf i ∧ IsSecondary i i.spec.bindings name)
    c.secrets c'.secrets
  configMaps : AgreeOn (fun space name => space = spaceOf i ∧ name = Workload.confName i)
    c.configMaps c'.configMaps
  deployments : AgreeOn (fun space name => space = spaceOf i ∧ name = i.name)
    c.deployments c'.deployments

/-- Whether two states look alike, with the reader in one state. -/
def Looks (i : Instance) (s s' : Cluster × ρ) : Prop := LooksAlike i s.1 s'.1 ∧ s.2 = s'.2

section Looks
variable {i : Instance} {c c' after after' : Cluster} {log log' : List Call}

/-! ### Stretches of calls -/

theorem LooksAlike.answered [Stored α] (h : LooksAlike i c c') (space name : String) :
    AnsweredAlike α space name c.faults c'.faults := by
  intro verbs
  rw [h.quiet, h.quiet']

theorem LooksAlike.ofSecrets {t t' : Table Secret} (h : LooksAlike i c c')
    (called : Called c log t after) (called' : Called c' log' t' after')
    (agree : AgreeOn (fun space name => space = spaceOf i ∧ IsSecondary i i.spec.bindings name)
      after.secrets after'.secrets) : LooksAlike i after after' where
  quiet := called.quiet h.quiet
  quiet' := called'.quiet h.quiet'
  secrets := agree
  configMaps := by
    rw [called.rest_secret.1, called'.rest_secret.1]
    exact h.configMaps
  deployments := by
    rw [called.rest_secret.2, called'.rest_secret.2]
    exact h.deployments

theorem LooksAlike.ofConfigMaps {t t' : Table ConfigMap} (h : LooksAlike i c c')
    (called : Called c log t after) (called' : Called c' log' t' after')
    (agree : AgreeOn (fun space name => space = spaceOf i ∧ name = Workload.confName i)
      after.configMaps after'.configMaps) : LooksAlike i after after' where
  quiet := called.quiet h.quiet
  quiet' := called'.quiet h.quiet'
  secrets := by
    rw [called.rest_configMap.1, called'.rest_configMap.1]
    exact h.secrets
  configMaps := agree
  deployments := by
    rw [called.rest_configMap.2, called'.rest_configMap.2]
    exact h.deployments

theorem LooksAlike.ofDeployments {t t' : Table Deployment} (h : LooksAlike i c c')
    (called : Called c log t after) (called' : Called c' log' t' after')
    (agree : AgreeOn (fun space name => space = spaceOf i ∧ name = i.name)
      after.deployments after'.deployments) : LooksAlike i after after' where
  quiet := called.quiet h.quiet
  quiet' := called'.quiet h.quiet'
  secrets := by
    rw [called.rest_deployment.1, called'.rest_deployment.1]
    exact h.secrets
  configMaps := by
    rw [called.rest_deployment.2, called'.rest_deployment.2]
    exact h.configMaps
  deployments := agree

/-! ### Sweeps -/

variable (E : Equipment ρ) {s s' : Cluster × ρ}

theorem alike_turn {b : Binding} (declared : b ∈ i.spec.bindings) (pod : PodSpec)
    (looks : Looks i s s') : (E.projector.project i b pod).Alike (Looks i) s s' := by
  obtain ⟨c, r⟩ := s
  obtain ⟨c', r'⟩ := s'
  obtain ⟨h, readers⟩ := looks
  obtain rfl : r = r' := readers
  have keeps : E.reader.Keeps Eq := by
    rintro space name access r _ rfl
    rfl
  have same : SameAnswers E i b (c, r) (c', r) := ⟨h.answered _ _, fun _ _ _ _ => rfl⟩
  obtain ⟨hresult, hmatched, hreaders⟩ := alike_project E i keeps
    (Local.agreeOn ⟨rfl, b, declared, rfl⟩) pod h.secrets rfl same
  obtain ⟨x, _, _, _, _, hx, called, _⟩ := exec_project E i b pod (c := c) (fun _ => trivial) r
  obtain ⟨x', _, _, _, _, hx', called', _⟩ := exec_project E i b pod (c := c') (fun _ => trivial) r
  refine ⟨hresult, ?_, hreaders⟩
  have agree := hmatched.tables
  rw [hx, hx'] at agree ⊢
  exact h.ofSecrets called called' agree

/-- Declared bindings are projected alike. -/
theorem looks_projectEach {bs : List Binding} (declared : bs ⊆ i.spec.bindings)
    (p : Projector.Progress) (looks : Looks i s s') :
    let each := (E.projector.projectEach i p bs).run s
    let each' := (E.projector.projectEach i p bs).run s'
    each.1 = each'.1 ∧ Looks i each.2 each'.2 := by
  induction bs generalizing p s s' with
  | nil => exact ⟨rfl, looks⟩
  | cons b rest ih =>
    rw [List.cons_subset] at declared
    obtain ⟨hresult, hlooks⟩ := alike_turn E declared.1 p.pod looks
    rw [run_projectEach_cons, run_projectEach_cons, hresult]
    exact ih declared.2 _ hlooks

/-- Cleaning up goes through in both, whatever there is to clean up. -/
theorem looks_prune {uid : String} (identified : Workload.ownerUid i = .ok uid)
    (looks : Looks i s s') :
    ∃ names names' t t', (E.projector.prune i).exec s = (.ok names, t) ∧
      (E.projector.prune i).exec s' = (.ok names', t') ∧ Looks i t t' := by
  obtain ⟨c, r⟩ := s
  obtain ⟨c', r'⟩ := s'
  obtain ⟨h, readers⟩ := looks
  obtain ⟨x, _, t, after, hx, called, pruned⟩ := exec_prune E i (fun hf => hf h.quiet) r
  obtain ⟨x', _, t', after', hx', called', pruned'⟩ := exec_prune E i (fun hf => hf h.quiet') r'
  obtain ⟨names, rfl⟩ := pruned.exists_ok identified
  obtain ⟨names', rfl⟩ := pruned'.exists_ok identified
  refine ⟨names, names', _, _, hx, hx', ?_, readers⟩
  obtain rfl : after.secrets = t := called.table
  obtain rfl : after'.secrets = t' := called'.table
  refine h.ofSecrets called called' ?_
  rintro _ _ ⟨rfl, b, declared, rfl⟩
  rw [pruned.declared declared, pruned'.declared declared]
  exact h.secrets _ _ ⟨rfl, b, declared, rfl⟩

/-- Sweeps come to the same, but for the secrets that they clean up. -/
theorem looks_projectAll {uid : String} (identified : Workload.ownerUid i = .ok uid)
    (pod : PodSpec) (looks : Looks i s s') :
    let swept := (E.projector.projectAll i pod).run s
    let swept' := (E.projector.projectAll i pod).run s'
    swept'.1 = (swept.1.1, { swept.1.2 with pruned := swept'.1.2.pruned }) ∧
      Looks i swept.2 swept'.2 := by
  obtain ⟨hresult, hlooks⟩ :=
    looks_projectEach E (List.Subset.refl i.spec.bindings) { pod := pod } looks
  obtain ⟨names, names', t, t', hx, hx', hlooks⟩ := looks_prune E identified hlooks
  have run : ∀ s : Cluster × ρ, (E.projector.projectAll i pod).run s =
      let each := (E.projector.projectEach i { pod := pod } i.spec.bindings).run s
      let gone := (E.projector.prune i).exec each.2
      ((each.1.pod, reportOf each.1 gone.1), gone.2) := fun _ => rfl
  rw [run, run]
  dsimp only
  rw [hx, hx', hresult]
  exact ⟨rfl, hlooks⟩

/-! ### Passes -/

theorem alike_settleConf (uid text : String) (pod : PodSpec) (looks : Looks i s s') :
    (E.operator.settleConf i (spaceOf i) uid text pod).Alike (Looks i) s s' := by
  obtain ⟨c, r⟩ := s
  obtain ⟨c', r'⟩ := s'
  obtain ⟨h, readers⟩ := looks
  have place : Local (α := ConfigMap) (AgreeOn fun space name =>
      space = spaceOf i ∧ name = Workload.confName i) (spaceOf i) (Workload.confName i) :=
    .agreeOn ⟨rfl, rfl⟩
  have m : Matched (α := ConfigMap) _ (spaceOf i) (Workload.confName i) c c' :=
    ⟨h.configMaps, h.answered _ _⟩
  have matched : (E.operator.settleConf i (spaceOf i) uid text pod).Alike
      (MatchedLeft (α := ConfigMap) (AgreeOn fun space name =>
        space = spaceOf i ∧ name = Workload.confName i) Eq (spaceOf i) (Workload.confName i))
      (c, r) (c', r') := by
    unfold Operator.settleConf
    split
    · exact (alike_removeOwned place uid m readers).bind fun _ _ _ m => .pure _ m
    · refine .bind_lift ⟨m, readers⟩ fun wanted made => ?_
      exact (alike_ensure place compareConfigMap (Workload.bindingConf_name made) m readers).bind
        fun _ _ _ m => .lift _ m
  obtain ⟨hresult, hmatched, hreaders⟩ := matched
  obtain ⟨_, _, _, _, hx, called, _⟩ :=
    Operator.exec_settleConf E i (spaceOf i) uid text pod (c := c) (fun _ => trivial) r
  obtain ⟨_, _, _, _, hx', called', _⟩ :=
    Operator.exec_settleConf E i (spaceOf i) uid text pod (c := c') (fun _ => trivial) r'
  refine ⟨hresult, ?_, hreaders⟩
  have agree := hmatched.tables
  rw [hx, hx'] at agree ⊢
  exact h.ofConfigMaps called called' agree

theorem alike_deploy {d : Deployment} (named : d.metadata.name = some i.name)
    (looks : Looks i s s') :
    (ensure E.operator.deployments compareDeployment (spaceOf i) i.name d).Alike (Looks i)
      s s' := by
  obtain ⟨c, r⟩ := s
  obtain ⟨c', r'⟩ := s'
  obtain ⟨h, readers⟩ := looks
  have m : Matched (α := Deployment) _ (spaceOf i) i.name c c' :=
    ⟨h.deployments, h.answered _ _⟩
  obtain ⟨hresult, hmatched, hreaders⟩ :=
    alike_ensure (Local.agreeOn ⟨rfl, rfl⟩) compareDeployment named m readers
  rw [E.operator_deployments]
  obtain ⟨_, _, _, _, hx, called, _⟩ := exec_ensure applies_compareDeployment (spaceOf i) named
    (c := c) (fun _ => trivial) r
  obtain ⟨_, _, _, _, hx', called', _⟩ := exec_ensure applies_compareDeployment (spaceOf i) named
    (c := c') (fun _ => trivial) r'
  refine ⟨hresult, ?_, hreaders⟩
  have agree := hmatched.tables
  rw [hx, hx'] at agree ⊢
  exact h.ofDeployments called called' agree

/-- What follows the sweep comes to the same. -/
theorem alike_finish (uid : String) {d : Deployment} (built : Workload.deployment i = .ok d)
    (pod : PodSpec) (report : Report) (looks : Looks i s s') :
    (do
      let pod ← E.operator.settleConf i (spaceOf i) uid report.conf pod
      let _ ← ensure E.operator.deployments compareDeployment (spaceOf i) i.name
        (Workload.withPod d pod)
      match report.error? with
      | some e => throw e
      | none => return Requeue.afterSuccess E.operator.settings : Action _ Nat).Alike (Looks i)
        s s' := by
  have named : d.metadata.name = some i.name := Workload.deployment_name built
  refine (alike_settleConf E uid report.conf pod looks).bind fun pod' _ _ looks => ?_
  refine (alike_deploy E (d := Workload.withPod d pod') named looks).bind fun _ _ _ looks => ?_
  cases report.error? with
  | some e => exact .throw e looks
  | none => exact .pure _ looks

/-- Which secrets have been cleaned up plays no part in what a report gives. -/
theorem Binding.Report.takeTransient_pruned (report : Report) (names : List String) :
    { report with pruned := names }.takeTransient =
      (report.takeTransient.1, { report.takeTransient.2 with pruned := names }) := by
  unfold takeTransient
  dsimp only
  cases report.failed.find? isTransient <;> rfl

/-- A pass comes to the same in clusters that look alike to it, and leaves such. -/
theorem Operator.alike_pass (looks : Looks i s s') :
    (E.operator.pass i).Alike (Looks i) s s' := by
  unfold pass
  refine .bind_lift looks fun _ valid => ?_
  cases placed : i.metadata.space with
  | none => exact .throw _ looks
  | some space =>
    have hspace : spaceOf i = space := by
      unfold spaceOf
      rw [placed]
      rfl
    dsimp only
    refine .bind_lift looks fun uid identified => .bind_lift looks fun d built =>
      .bind_lift looks fun pod podded => ?_
    obtain ⟨hreport, hlooks⟩ := looks_projectAll E identified pod looks
    rw [E.operator_projector]
    unfold Action.Alike
    rw [Action.exec_bind, Action.exec_bind, Action.exec_run, Action.exec_run]
    generalize (E.projector.projectAll i pod).run s = swept at hreport hlooks
    generalize (E.projector.projectAll i pod).run s' = swept' at hreport hlooks
    obtain ⟨⟨pod', report⟩, t⟩ := swept
    obtain ⟨⟨pod'', report'⟩, t'⟩ := swept'
    obtain ⟨rfl, hpruned⟩ := Prod.mk.inj hreport
    dsimp only at hpruned hlooks ⊢
    generalize report'.pruned = names at hpruned
    subst hpruned
    rw [Report.takeTransient_pruned report names]
    generalize report.takeTransient = taken
    obtain ⟨_ | e, report⟩ := taken
    · rw [← hspace]
      exact alike_finish E uid built pod'' report hlooks
    · exact ⟨rfl, hlooks⟩

end Looks

end ServiceBinding
