import ServiceBinding.Proofs.Binding.Sweeping

/-!
What one pass can come to on the in-memory cluster (`Passed`): it is refused before anything is
touched; it is halted after the sweep by a failure that may go away; it ends at the configuration
text; or it gets as far as the deployment. Each kind of object is worked on in one stretch, first
the secrets, then the config map, last the deployment.
-/
namespace ServiceBinding
open Binding Cluster Convergence Object
variable {ρ : Type}

namespace Operator

/-- What a pass has at hand before it touches anything. -/
structure Prepared (i : Instance) (space uid : String) (d : Deployment) (pod : PodSpec) :
    Prop where
  valid : i.spec.validate = .ok ()
  placed : i.metadata.space = some space
  identified : Workload.ownerUid i = .ok uid
  built : Workload.deployment i = .ok d
  podded : Workload.podSpec d = .ok pod

section Preparation
variable {i : Instance} {space uid : String} {d : Deployment} {pod : PodSpec}

/-- What a pass has at hand is determined by the instance. -/
theorem Prepared.unique {space' uid' : String} {d' : Deployment} {pod' : PodSpec}
    (h : Prepared i space uid d pod) (h' : Prepared i space' uid' d' pod') :
    space' = space ∧ uid' = uid ∧ d' = d ∧ pod' = pod := by
  cases h.placed.symm.trans h'.placed
  cases h.identified.symm.trans h'.identified
  cases h.built.symm.trans h'.built
  cases h.podded.symm.trans h'.podded
  exact ⟨rfl, rfl, rfl, rfl⟩

theorem Prepared.spaceOf_eq (h : Prepared i space uid d pod) : spaceOf i = space := by
  unfold spaceOf
  rw [h.placed]
  rfl

theorem Prepared.getD_uid (h : Prepared i space uid d pod) :
    i.metadata.uid.getD "" = uid := by
  have identity : i.metadata.uid = some uid := Workload.ownerUid_eq_ok.1 h.identified
  rw [identity]
  rfl

/-- The deployment is made for the instance with whatever pod it is stored. -/
theorem Prepared.isMadeFor (h : Prepared i space uid d pod) (pod' : PodSpec) :
    IsMadeFor (Workload.withPod d pod').metadata uid := by
  show IsMadeFor d.metadata uid
  exact Workload.deployment_isMadeFor h.identified h.built

end Preparation

/-- The ways in which settling the configuration text can end. -/
inductive ConfSettled (faulty : Prop) (i : Instance) (space uid text : String) (pod : PodSpec)
    (before : Table ConfigMap) : Result PodSpec → List Verb → Table ConfigMap → Prop
  | removed (empty : text.isEmpty = true) {x : Result Removal} {verbs : List Verb}
      {t : Table ConfigMap} (h : Removed faulty space (Workload.confName i) uid before x verbs t) :
    ConfSettled faulty i space uid text pod before (x.map fun _ => pod) verbs t
  | unmade (filled : text.isEmpty = false) {e : Error}
      (h : Workload.bindingConf i text = .error e) :
    ConfSettled faulty i space uid text pod before (.error e) [] before
  | ensured (filled : text.isEmpty = false) {wanted : ConfigMap}
      (made : Workload.bindingConf i text = .ok wanted) {x : Result Outcome} {verbs : List Verb}
      {t : Table ConfigMap}
      (h : Ensured faulty compareConfigMap space (Workload.confName i) wanted before x verbs t) :
    ConfSettled faulty i space uid text pod before
      (x.bind fun _ => (Workload.mountConf i pod).toResult) verbs t

theorem exec_settleConf (E : Equipment ρ) (i : Instance) (space uid text : String)
    (pod : PodSpec) {c : Cluster} {faulty : Prop} (hf : c.faults ≠ [] → faulty) (r : ρ) :
    ∃ x verbs t after,
      (E.operator.settleConf i space uid text pod).exec (c, r) = (x, (after, r)) ∧
        Called c (verbs.map (callOn ConfigMap space (Workload.confName i))) t after ∧
          ConfSettled faulty i space uid text pod c.configMaps x verbs t := by
  unfold settleConf
  rw [E.operator_configMaps]
  cases ht : text.isEmpty with
  | true =>
    obtain ⟨x, verbs, t, after, hx, hcalled, h⟩ :=
      exec_removeOwned (α := ConfigMap) space (Workload.confName i) uid hf r
    refine ⟨_, verbs, t, after, ?_, hcalled, .removed ht h⟩
    simp only [if_true, Action.exec_bind, hx]
    cases x <;> rfl
  | false =>
    simp only [Bool.false_eq_true, if_false, Action.exec_bind, Action.exec_lift]
    cases hw : Workload.bindingConf i text with
    | error e => exact ⟨_, [], _, c, rfl, .refl c, .unmade ht hw⟩
    | ok wanted =>
      obtain ⟨x, verbs, t, after, hx, hcalled, h⟩ :=
        exec_ensure applies_compareConfigMap space (Workload.bindingConf_name hw) hf r
      refine ⟨_, verbs, t, after, ?_, hcalled, .ensured ht hw h⟩
      simp only [hx]
      cases x <;> rfl

/-- The result of a pass whose deployment has been dealt with. -/
def concluded (E : Equipment ρ) (report : Report) : Result Nat :=
  match report.error? with
  | some e => .error e
  | none => .ok (Requeue.afterSuccess E.settings)

/-- The ways in which a pass can end after the sweep: its result, and the cluster after it. -/
inductive Finished (faulty : Prop) (E : Equipment ρ) (i : Instance) (space uid : String)
    (d : Deployment) (pod : PodSpec) (report : Report) (c : Cluster) :
    Result Nat → Cluster → Prop
  | halted {e : Error} (transient : report.takeTransient.1 = some e) :
    Finished faulty E i space uid d pod report c (.error e) c
  | unconfigured (stable : report.takeTransient.1 = none) {e : Error} {verbs : List Verb}
      {t : Table ConfigMap} {after : Cluster}
      (conf : ConfSettled faulty i space uid report.conf pod c.configMaps (.error e) verbs t)
      (called : Called c (verbs.map (callOn ConfigMap space (Workload.confName i))) t after) :
    Finished faulty E i space uid d pod report c (.error e) after
  | deployed (stable : report.takeTransient.1 = none) {pod' : PodSpec} {verbs verbs' : List Verb}
      {t : Table ConfigMap} {mid after : Cluster}
      (conf : ConfSettled faulty i space uid report.conf pod c.configMaps (.ok pod') verbs t)
      (called : Called c (verbs.map (callOn ConfigMap space (Workload.confName i))) t mid)
      {x : Result Outcome} {t' : Table Deployment}
      (ensured : Ensured faulty compareDeployment space i.name (Workload.withPod d pod')
        mid.deployments x verbs' t')
      (called' : Called mid (verbs'.map (callOn Deployment space i.name)) t' after) :
    Finished faulty E i space uid d pod report c (x.bind fun _ => concluded E report) after

/-- The ways in which a pass can end: its result, and the cluster and the reader after it. -/
inductive Passed (faulty : Prop) (E : Equipment ρ) (i : Instance) (c : Cluster) (r : ρ) :
    Result Nat → Cluster → ρ → Prop
  | refused (e : Error) (h : ∀ space uid d pod, ¬ Prepared i space uid d pod) :
    Passed faulty E i c r (.error e) c r
  | swept {space uid : String} {d : Deployment} {pod : PodSpec}
      (prepared : Prepared i space uid d pod) {p : Projector.Progress}
      {pruned : Result (List String)} {log : List Call} {t : Table Secret} {mid : Cluster}
      {r' : ρ} (ran : (E.projector.projectAll i pod).run (c, r) =
        ((p.pod, reportOf p pruned), (mid, r')))
      (swept : Swept faulty E i pod c.secrets r p pruned log t r') (called : Called c log t mid)
      {x : Result Nat} {after : Cluster}
      (finished : Finished faulty E i space uid d p.pod (reportOf p pruned) mid x after) :
    Passed faulty E i c r x after r'

/-- What follows the sweep works on no secrets. -/
theorem Finished.secrets {faulty : Prop} {E : Equipment ρ} {i : Instance} {space uid : String}
    {d : Deployment} {pod : PodSpec} {report : Report} {c after : Cluster} {x : Result Nat}
    (h : Finished faulty E i space uid d pod report c x after) : after.secrets = c.secrets := by
  cases h with
  | halted => rfl
  | unconfigured _ _ called => exact called.rest_configMap.1
  | deployed _ _ called _ called' =>
    exact called'.rest_deployment.1.trans called.rest_configMap.1

theorem takeTransient_stable {report : Report} (h : report.takeTransient.1 = none) :
    report.takeTransient = (none, report) := by
  unfold Report.takeTransient at h ⊢
  split at h
  · rfl
  · cases h

/-- The rest of a pass once no failure halts it. -/
theorem exec_finish (E : Equipment ρ) {i : Instance} (space uid : String) {d : Deployment}
    (built : Workload.deployment i = .ok d) (pod : PodSpec) {report : Report}
    (stable : report.takeTransient.1 = none) {c : Cluster} {faulty : Prop}
    (hf : c.faults ≠ [] → faulty) (r : ρ) :
    ∃ x after,
      (do
        let pod ← E.operator.settleConf i space uid report.conf pod
        let _ ← ensure E.operator.deployments compareDeployment space i.name
          (Workload.withPod d pod)
        match report.error? with
        | some e => throw e
        | none => return Requeue.afterSuccess E.operator.settings).exec (c, r) =
          (x, (after, r)) ∧
        Finished faulty E i space uid d pod report c x after := by
  obtain ⟨x, verbs, t, mid, hx, hcalled, hconf⟩ :=
    exec_settleConf E i space uid report.conf pod hf r
  rw [Action.exec_bind, hx]
  cases x with
  | error e => exact ⟨_, _, rfl, .unconfigured stable hconf hcalled⟩
  | ok pod' =>
    have hname : (Workload.withPod d pod').metadata.name = some i.name := by
      show d.metadata.name = _
      exact Workload.deployment_name built
    obtain ⟨y, verbs', t', after, hy, hcalled', hensured⟩ :=
      exec_ensure applies_compareDeployment space hname
        (fun h => hf fun quiet => h (hcalled.quiet quiet)) r
    refine ⟨_, _, ?_, .deployed stable hconf hcalled hensured hcalled'⟩
    dsimp only
    rw [E.operator_deployments, Action.exec_bind, hy]
    unfold concluded
    cases y with
    | error e => rfl
    | ok _ =>
      dsimp only [Except.bind]
      cases report.error? <;> rfl

theorem exec_pass (E : Equipment ρ) (i : Instance) {c : Cluster} {faulty : Prop}
    (hf : c.faults ≠ [] → faulty) (r : ρ) :
    ∃ x after r', (E.operator.pass i).exec (c, r) = (x, (after, r')) ∧
      Passed faulty E i c r x after r' := by
  unfold pass
  rw [Action.exec_bind, Action.exec_lift]
  cases hvalid : i.spec.validate with
  | error e => exact ⟨_, _, _, rfl, .refused _ fun _ _ _ _ h => nomatch hvalid.symm.trans h.valid⟩
  | ok _ =>
    dsimp only
    cases hspace : i.metadata.space with
    | none => exact ⟨_, _, _, rfl, .refused _ fun _ _ _ _ h => nomatch hspace.symm.trans h.placed⟩
    | some space =>
      dsimp only
      simp only [Action.exec_bind, Action.exec_lift]
      cases huid : Workload.ownerUid i with
      | error e =>
        exact ⟨_, _, _, rfl, .refused _ fun _ _ _ _ h => nomatch huid.symm.trans h.identified⟩
      | ok uid =>
        dsimp only
        cases hbuilt : Workload.deployment i with
        | error e =>
          exact ⟨_, _, _, rfl, .refused _ fun _ _ _ _ h => nomatch hbuilt.symm.trans h.built⟩
        | ok d =>
          dsimp only
          cases hpod : Workload.podSpec d with
          | error e =>
            refine ⟨_, _, _, rfl, .refused _ fun _ _ _ _ h => ?_⟩
            cases hbuilt.symm.trans h.built
            cases hpod.symm.trans h.podded
          | ok pod =>
            dsimp only
            have hprep : Prepared i space uid d pod := ⟨hvalid, hspace, huid, hbuilt, hpod⟩
            obtain ⟨p, pruned, log, t, mid, r', hrun, hcalled, hswept⟩ :=
              run_projectAll E i pod hf r
            have hf' : mid.faults ≠ [] → faulty :=
              fun h => hf fun quiet => h (hcalled.quiet quiet)
            rw [E.operator_projector, Action.exec_run, hrun]
            dsimp only
            cases htrans : (reportOf p pruned).takeTransient.1 with
            | some e => exact ⟨_, _, _, rfl, .swept hprep hrun hswept hcalled (.halted htrans)⟩
            | none =>
              rw [takeTransient_stable htrans]
              obtain ⟨x, after, hx, hfinish⟩ := exec_finish E space uid hbuilt p.pod htrans hf' r'
              exact ⟨x, after, r', hx, .swept hprep hrun hswept hcalled hfinish⟩

end Operator

end ServiceBinding
