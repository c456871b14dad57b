import ServiceBinding.Proofs.Belonging
import ServiceBinding.Proofs.Binding.Given
import ServiceBinding.Proofs.Independence

/-!
What a pass comes to. The errors of its sweep, in the order of declaration, decide
(`sweepErrors`): the first that may go away by itself ends the pass before anything but secrets is
touched; otherwise the deployment is written with what the applied bindings give, and the first
error of all is the result (`pass_outcome`).
-/
namespace ServiceBinding
open Binding Cluster Convergence Crypto Object Workload
variable {σ ρ : Type}

namespace Binding.Projector

/-- The errors of a result, one or none. -/
def errorsOf {α : Type} : Result α → List Error
  | .ok _ => []
  | .error e => [e]

/-- The errors in which the turns of some bindings end, in their order. -/
def turnErrors (P : Projector σ) (i : Instance) : Progress → List Binding → StateM σ (List Error)
  | _, [] => return []
  | p, b :: rest => do
    let x ← (P.project i b p.pod).run
    return errorsOf x ++ (← turnErrors P i (p.after b x) rest)

/-- The errors of a sweep: those of the bindings as they are declared, and last that of the
cleaning up. -/
def sweepErrors (P : Projector σ) (i : Instance) (pod : PodSpec) : StateM σ (List Error) := do
  let errors ← P.turnErrors i { pod := pod } i.spec.bindings
  return errors ++ errorsOf (← (P.prune i).run)

section Errors
variable (P : Projector σ) (i : Instance)

theorem failed_after (p : Progress) (b : Binding) (x : Result (PodSpec × String)) :
    (p.after b x).failed.map (·.2) = p.failed.map (·.2) ++ errorsOf x := by
  cases x with
  | ok y => exact (List.append_nil _).symm
  | error e => simp [Progress.after, errorsOf]

/-- The errors of some turns are the failures that these report, and they are come to in the same
state. -/
theorem run_turnErrors (p : Progress) (bs : List Binding) (s : σ) :
    ((P.turnErrors i p bs).run s).2 = ((P.projectEach i p bs).run s).2 ∧
      ((P.projectEach i p bs).run s).1.failed.map (·.2) =
        p.failed.map (·.2) ++ ((P.turnErrors i p bs).run s).1 := by
  induction bs generalizing p s with
  | nil => exact ⟨rfl, (List.append_nil _).symm⟩
  | cons b rest ih =>
    obtain ⟨hstate, hfailed⟩ :=
      ih (p.after b ((P.project i b p.pod).exec s).1) ((P.project i b p.pod).exec s).2
    refine ⟨hstate, hfailed.trans ?_⟩
    rw [failed_after, List.append_assoc]
    rfl

/-- The report of a sweep lists its errors in their order. -/
theorem run_sweepErrors (pod : PodSpec) (s : σ) :
    ((P.sweepErrors i pod).run s).1 = ((P.projectAll i pod).run s).1.2.failed.map (·.2) := by
  obtain ⟨hstate, hfailed⟩ := run_turnErrors P i { pod := pod } i.spec.bindings s
  have herrors : ((P.sweepErrors i pod).run s).1 =
      let turns := (P.turnErrors i { pod := pod } i.spec.bindings).run s
      turns.1 ++ errorsOf ((P.prune i).exec turns.2).1 := rfl
  have hreport : ((P.projectAll i pod).run s).1.2 =
      let each := (P.projectEach i { pod := pod } i.spec.bindings).run s
      reportOf each.1 ((P.prune i).exec each.2).1 := rfl
  rw [herrors, hreport]
  dsimp only [reportOf]
  rw [List.map_append, hfailed, hstate]
  generalize (P.prune i).exec _ = gone
  obtain ⟨_ | _, t⟩ := gone <;> rfl

end Errors

end Binding.Projector

/-! ### Reports -/

namespace Binding.Report

theorem takeTransient_fst (report : Report) :
    report.takeTransient.1 = (report.failed.map (·.2)).find? Error.isRetryable := by
  rw [List.find?_map]
  unfold takeTransient
  rw [show Error.isRetryable ∘ (·.2) = isTransient from rfl]
  cases report.failed.find? isTransient <;> rfl

/-- Where no failure may go away by itself, the first of all is reported. -/
theorem error?_of_stable {report : Report} (stable : report.takeTransient.1 = none) :
    report.error? = (report.failed.map (·.2)).head? := by
  rw [takeTransient_fst, List.find?_map, Option.map_eq_none_iff] at stable
  unfold error?
  rw [show report.failed.find? isTransient = none from stable, List.head?_map]
  rfl

end Binding.Report

namespace Operator

/-! ### Passes -/

/-- The result of a pass that gets as far as its deployment, by the errors of its sweep. -/
def verdict (E : Equipment ρ) (errors : List Error) : Result Nat :=
  match errors.head? with
  | some e => .error e
  | none => .ok (Requeue.afterSuccess E.settings)

section Passes
variable {E : Equipment ρ} {i : Instance} {space uid : String} {d : Deployment} {pod : PodSpec}

/-- A pass that has prepared goes on with its sweep. -/
theorem exec_pass_of_prepared (prepared : Prepared i space uid d pod) (s : Cluster × ρ) :
    (E.operator.pass i).exec s =
      let swept := (E.projector.projectAll i pod).run s
      match swept.1.2.takeTransient with
      | (some e, _) => (.error e, swept.2)
      | (none, report) =>
        (do
          let pod ← E.operator.settleConf i space uid report.conf swept.1.1
          let _ ← ensure E.operator.deployments compareDeployment space i.name
            (Workload.withPod d pod)
          match report.error? with
          | some e => throw e
          | none => return Requeue.afterSuccess E.operator.settings).exec swept.2 := by
  unfold pass
  rw [Action.exec_bind, Action.exec_lift, prepared.valid]
  dsimp only
  rw [prepared.placed]
  dsimp only
  rw [Action.exec_bind, Action.exec_lift, prepared.identified]
  dsimp only
  rw [Action.exec_bind, Action.exec_lift, prepared.built]
  dsimp only
  rw [Action.exec_bind, Action.exec_lift, prepared.podded]
  dsimp only
  rw [Action.exec_bind, Action.exec_run, E.operator_projector]
  generalize (E.projector.projectAll i pod).run s = swept
  obtain ⟨⟨pod', report⟩, t⟩ := swept
  dsimp only
  generalize report.takeTransient = taken
  obtain ⟨_ | e, report'⟩ := taken
  · rfl
  · rfl

/-- The pod that instances start with lists one variable at most, the list of templates. -/
theorem lists_of_deployment (built : Workload.deployment i = .ok d)
    (podded : Workload.podSpec d = .ok pod) :
    Lists pod [] [] (i.spec.templates.map fun _ => templatesVariable).eraseDups := by
  obtain ⟨c, hc, h⟩ := bind_eq_ok.1 built
  obtain ⟨m, _, h⟩ := bind_eq_ok.1 h
  cases h
  cases podded
  have bare : Equips { name := serverContainer, image := some i.spec.image } []
      ([] : List String).eraseDups := ⟨rfl, rfl, rfl⟩
  exact ⟨rfl, c, rfl, bare.forEach_mergeEnv (EnvVar.plain templatesVariable) hc⟩

end Passes

section Sweeps
variable (E : Equipment ρ) {i : Instance} (valid : i.spec.validate = .ok ()) {d : Deployment}
  {pod : PodSpec} (built : Workload.deployment i = .ok d) (podded : Workload.podSpec d = .ok pod)
  (c : Cluster) (r : ρ)
include valid built podded

/-- Where the configuration text can be mounted, no applied binding has taken its volume's name. -/
theorem confVolume_notMem {pod' : PodSpec} :
    let swept := (E.projector.projectAll i pod).run (c, r)
    ∀ applied : List Binding, applied.Sublist i.spec.bindings →
      applied.map (·.name) = swept.1.2.applied →
        (Workload.mountConf i swept.1.1).toResult = .ok pod' →
          confVolume ∉ applied.flatMap (·.files E.settings.mountBase) := by
  intro swept applied hsub happlied hmount hmem
  obtain ⟨b, hb, hfile⟩ := List.mem_flatMap.1 hmem
  obtain ⟨shows, hname⟩ := mem_files.1 hfile
  obtain ⟨_, _, _, hshown⟩ := fresh_or_shown E valid built podded c r (hsub.subset hb)
  obtain ⟨secondary, items, hvolume⟩ := hshown ⟨happlied ▸ List.mem_map_of_mem hb, shows⟩
  rw [volumeName_eq_confVolume.1 hname.symm] at hvolume
  cases (mountConf_of_filesVolume hvolume).symm.trans hmount

/-- The pod at the end of a sweep lists what the applied bindings give. -/
theorem lists_projectAll :
    let swept := (E.projector.projectAll i pod).run (c, r)
    ∃ applied : List Binding, applied.Sublist i.spec.bindings ∧
      applied.map (·.name) = swept.1.2.applied ∧
      let files := applied.flatMap (·.files E.settings.mountBase)
      files.Nodup ∧ Lists swept.1.1 files.eraseDups files.eraseDups
        ((i.spec.templates.map fun _ => templatesVariable) ++
          applied.flatMap (·.variableNames E.settings.mountBase)).eraseDups := by
  intro swept
  obtain ⟨p, pruned, _, _, after, r', hswept, _, ⟨_, _, _, _, each, _⟩⟩ :=
    run_projectAll E i pod (c := c) (fun _ => trivial) r
  have hbase : Lists pod ([] : List String).eraseDups ([] : List String).eraseDups
      (i.spec.templates.map fun _ => templatesVariable).eraseDups :=
    lists_of_deployment built podded
  obtain ⟨applied, hsub, happlied, hlists⟩ := each.lists hbase
  have hnodup : (applied.map (·.name)).Nodup :=
    (hsub.map _).nodup (InstanceSpec.nodup_names valid)
  refine ⟨applied, hsub, ?_, nodup_files _ hnodup, ?_⟩
  · show _ = ((E.projector.projectAll i pod).run (c, r)).1.2.applied
    rw [hswept]
    exact happlied.symm
  · show Lists ((E.projector.projectAll i pod).run (c, r)).1.1 _ _ _
    rw [hswept]
    exact hlists

end Sweeps

/-- Whether a pod lists just what the templates of an instance, its bindings that are reported as
applied, and the configuration text give. -/
def ListsGiven (E : Equipment ρ) (i : Instance) (report : Report) (pod : PodSpec) : Prop :=
  ∃ applied : List Binding, applied.Sublist i.spec.bindings ∧
    applied.map (·.name) = report.applied ∧
    let conf := if report.conf.isEmpty then [] else [confVolume]
    let files := applied.flatMap (·.files E.settings.mountBase) ++ conf
    let env := (i.spec.templates.map fun _ => templatesVariable) ++
      applied.flatMap (·.variableNames E.settings.mountBase)
    Lists pod files files env.eraseDups

/-- What a pass comes to once it has prepared. -/
structure Decided (E : Equipment ρ) (i : Instance) (space uid : String) (d : Deployment)
    (pod : PodSpec) (c : Cluster) (r : ρ) : Prop where
  /-- The first error that may go away by itself is the result, and only secrets are touched. -/
  halted : ∀ e,
    ((E.projector.sweepErrors i pod).run (c, r)).1.find? Error.isRetryable = some e →
      let passed := (E.operator.pass i).exec (c, r)
      passed.1 = .error e ∧ passed.2.1.deployments = c.deployments ∧
        passed.2.1.configMaps = c.configMaps
  /-- If there is none, and the steps on the config map and on the deployment go through, the first
  error of all is the result, and the deployment lists what the applied bindings give. -/
  deployed :
    let errors := ((E.projector.sweepErrors i pod).run (c, r)).1
    let swept := (E.projector.projectAll i pod).run (c, r)
    errors.find? Error.isRetryable = none → ∀ pod' mid o last,
      (E.operator.settleConf i space uid swept.1.2.conf swept.1.1).exec swept.2 =
        (.ok pod', mid) →
      (ensure E.operator.deployments compareDeployment space i.name
        (Workload.withPod d pod')).exec mid = (.ok o, last) →
      (E.operator.pass i).exec (c, r) = (verdict E errors, last) ∧
        ∃ found shown, last.1.deployments.get? space i.name = some found ∧
          Workload.podSpec? found = some shown ∧ ListsGiven E i swept.1.2 shown

section Deciding
variable {E : Equipment ρ} {i : Instance} {space uid : String} {d : Deployment} {pod : PodSpec}
  (prepared : Prepared i space uid d pod) (c : Cluster) (r : ρ)
include prepared

theorem halted_of_retryable {e : Error}
    (first : ((E.projector.sweepErrors i pod).run (c, r)).1.find? Error.isRetryable = some e) :
    let passed := (E.operator.pass i).exec (c, r)
    passed.1 = .error e ∧ passed.2.1.deployments = c.deployments ∧
      passed.2.1.configMaps = c.configMaps := by
  obtain ⟨p, pruned, _, _, mid, r', hswept, called, _⟩ :=
    run_projectAll E i pod (c := c) (fun _ => trivial) r
  rw [Projector.run_sweepErrors, ← Report.takeTransient_fst, hswept] at first
  obtain ⟨hconfigMaps, hdeployments⟩ := called.rest_secret
  rw [exec_pass_of_prepared prepared, hswept]
  dsimp only at first ⊢
  generalize (reportOf p pruned).takeTransient = taken at first
  obtain ⟨_, _⟩ := taken
  cases first
  exact ⟨rfl, hdeployments, hconfigMaps⟩

/-- Once the configuration text has been settled the pod lists what is given. -/
theorem listsGiven_of_settleConf {pod' : PodSpec} {mid : Cluster × ρ} :
    let swept := (E.projector.projectAll i pod).run (c, r)
    (E.operator.settleConf i space uid swept.1.2.conf swept.1.1).exec swept.2 = (.ok pod', mid) →
      ListsGiven E i swept.1.2 pod' := by
  intro swept hconf
  obtain ⟨applied, hsub, happlied, hnodup, hlists⟩ :=
    lists_projectAll E prepared.valid prepared.built prepared.podded c r
  refine ⟨applied, hsub, happlied, ?_⟩
  obtain ⟨x, verbs, t, after, hx, _, hsettled⟩ := exec_settleConf E i space uid swept.1.2.conf
    swept.1.1 (c := swept.2.1) (fun _ => trivial) swept.2.2
  cases hx.symm.trans hconf
  dsimp only
  rcases hsettled.mounted with ⟨hempty, rfl⟩ | ⟨hfilled, hmount, _⟩
  · rw [if_pos hempty, List.append_nil]
    rw [eraseDups_of_nodup hnodup] at hlists
    exact hlists
  · have hfree := confVolume_notMem E prepared.valid prepared.built prepared.podded c r applied hsub
      happlied hmount
    rw [if_neg (by rw [hfilled]; exact Bool.false_ne_true)]
    rw [← eraseDups_of_nodup hnodup, ← eraseDups_append_of_notMem hfree]
    exact hlists.mountConf hmount

theorem deployed_of_stable
    (stable : ((E.projector.sweepErrors i pod).run (c, r)).1.find? Error.isRetryable = none)
    {pod' : PodSpec} {mid last : Cluster × ρ} {o : Outcome} :
    let swept := (E.projector.projectAll i pod).run (c, r)
    (E.operator.settleConf i space uid swept.1.2.conf swept.1.1).exec swept.2 = (.ok pod', mid) →
    (ensure E.operator.deployments compareDeployment space i.name
      (Workload.withPod d pod')).exec mid = (.ok o, last) →
    (E.operator.pass i).exec (c, r) =
        (verdict E ((E.projector.sweepErrors i pod).run (c, r)).1, last) ∧
      ∃ found shown, last.1.deployments.get? space i.name = some found ∧
        Workload.podSpec? found = some shown ∧ ListsGiven E i swept.1.2 shown := by
  intro swept hconf hensure
  have hstable : swept.1.2.takeTransient.1 = none := by
    rw [Report.takeTransient_fst, ← Projector.run_sweepErrors]
    exact stable
  constructor
  · have hfirst := Report.error?_of_stable hstable
    have hverdict : verdict E ((E.projector.sweepErrors i pod).run (c, r)).1 =
        concluded E swept.1.2 := by
      unfold verdict concluded
      rw [Projector.run_sweepErrors]
      generalize swept.1.2.error? = first at hfirst ⊢
      subst hfirst
      rfl
    rw [exec_pass_of_prepared prepared]
    dsimp only
    rw [takeTransient_stable hstable]
    dsimp only
    rw [Action.exec_bind, hconf]
    dsimp only
    rw [Action.exec_bind, hensure, hverdict]
    unfold concluded
    dsimp only
    cases swept.1.2.error? <;> rfl
  · obtain ⟨applied, hsub, happlied, hlists⟩ := listsGiven_of_settleConf prepared c r hconf
    have hname : (Workload.withPod d pod').metadata.name = some i.name := by
      show d.metadata.name = _
      exact Workload.deployment_name prepared.built
    obtain ⟨x, verbs, t, after, hx, hcalled, hensured⟩ := exec_ensure applies_compareDeployment
      space hname (c := mid.1) (fun _ => trivial) mid.2
    cases hx.symm.trans hensure
    obtain ⟨found, shown, hfound, hshown, hlists⟩ :=
      hensured.lists (Workload.podSpec?_withPod prepared.podded pod') hlists
    exact ⟨found, shown, by rw [← hfound, ← hcalled.table]; rfl, hshown, applied, hsub, happlied,
      hlists⟩

end Deciding

/-- **What a pass comes to**, for every instance, every reader and whatever is stored or fails. A
pass that cannot prepare touches nothing. Any other one is decided by the errors of its sweep: the
first, in the order of declaration and the cleaning up last, that may go away by itself is its
result, and it leaves deployments and config maps as they were; without such an error, once the
steps on the config map and on the deployment go through, the stored deployment lists just what the
template, the applied bindings and the text give, and the first error, if any, is the result. -/
theorem pass_outcome (E : Equipment ρ) (i : Instance) (c : Cluster) (r : ρ) :
    ((∀ space uid d pod, ¬ Prepared i space uid d pod) →
      ∃ e, (E.operator.pass i).exec (c, r) = (.error e, (c, r))) ∧
    ∀ space uid d pod, Prepared i space uid d pod → Decided E i space uid d pod c r := by
  constructor
  · intro unprepared
    obtain ⟨x, after, r', hx, passed⟩ := exec_pass E i (c := c) (fun _ => trivial) r
    cases passed with
    | refused e => exact ⟨e, hx⟩
    | swept prepared => exact absurd prepared (unprepared _ _ _ _)
  · intro space uid d pod prepared
    exact {
      halted := fun _ first => halted_of_retryable prepared c r first
      deployed := fun stable _ _ _ _ hconf hensure =>
        deployed_of_stable prepared c r stable hconf hensure }

/-- An instance without a namespace cannot prepare, a missing config map halts the pass, and a pass
that goes through lists what is given. -/
theorem pass_outcome_passwordMounted :
    let E := Equipment.onePassword
    let unplaced : Instance := { passwordMounted with metadata := { name := some "nx" } }
    (∃ e, (E.operator.pass unplaced).exec ({}, ()) = (.error e, ({}, ()))) ∧
    (∃ e, ((E.operator.pass settingsMissing).exec ({}, ())).1 = .error e ∧ e.isRetryable = true) ∧
    ∃ last report found shown, (E.operator.pass passwordMounted).exec ({}, ()) = (.ok 300, last) ∧
      last.1.deployments.get? "prod" "nx" = some found ∧ Workload.podSpec? found = some shown ∧
        report.applied = ["db"] ∧ ListsGiven E passwordMounted report shown := by
  intro E unplaced
  let pod : PodSpec := { containers := [{ name := "nuxeo", image := some "nuxeo:latest" }] }
  refine ⟨?_, ?_, ?_⟩
  · refine (pass_outcome E unplaced {} ()).1 fun space _ _ _ prepared => ?_
    cases prepared.placed
  · have prepared : Prepared settingsMissing "prod" "u1" _ pod :=
      ⟨by decide +kernel, rfl, rfl, rfl, rfl⟩
    have decided := (pass_outcome E settingsMissing {} ()).2 _ _ _ _ prepared
    cases first : ((E.projector.sweepErrors settingsMissing pod).run ({}, ())).1.find?
        Error.isRetryable with
    | none => exact absurd first (by decide +kernel)
    | some e => exact ⟨e, (decided.halted e first).1, List.find?_some first⟩
  · let d : Deployment := (Workload.deployment passwordMounted).toOption.getD {}
    have prepared : Prepared passwordMounted "prod" "u1" d pod :=
      ⟨by decide +kernel, rfl, rfl, rfl, rfl⟩
    have decided := (pass_outcome E passwordMounted {} ()).2 _ _ _ _ prepared
    have errors : ((E.projector.sweepErrors passwordMounted pod).run ({}, ())).1 = [] := by
      decide +kernel
    let swept := (E.projector.projectAll passwordMounted pod).run ({}, ())
    obtain ⟨o, last, h⟩ := Action.exists_exec_ok
      (a := do
        let pod' ← E.operator.settleConf passwordMounted "prod" "u1" swept.1.2.conf swept.1.1
        ensure E.operator.deployments compareDeployment "prod" "nx" (Workload.withPod d pod'))
      (s := swept.2) (by decide +kernel)
    obtain ⟨pod', mid, hconf, hensure⟩ := Action.exec_bind_ok.1 h
    obtain ⟨hpass, found, shown, hfound, hshown, hlists⟩ :=
      decided.deployed (by rw [errors]; rfl) pod' mid o last hconf hensure
    rw [errors] at hpass
    exact ⟨last, _, found, shown, hpass, hfound, hshown, by decide +kernel, hlists⟩

end Operator

end ServiceBinding
