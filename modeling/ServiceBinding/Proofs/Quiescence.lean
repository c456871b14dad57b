import ServiceBinding.Proofs.Binding.Repeating
import ServiceBinding.Proofs.Passing

/-!
Passes come to rest. A pass that has succeeded has left every place it worked on as it wants it:
the secondary secrets with passwords and key stores in them that are good for another pass, the
config map, the deployment, and no leftovers. So the same pass made again, with whatever draws,
only looks (`pass_quiescent`).
-/
namespace ServiceBinding
open Binding Cluster Convergence Crypto Object
variable {ρ : Type}

/-- Calls that leave their table as it was leave nothing but themselves on record. -/
theorem Cluster.Called.idle {α : Type} [Stored α] [LawfulStored α] {c after : Cluster}
    {log : List Call} (h : Called c log (Stored.table c : Table α) after) (quiet : c.faults = []) :
    after = c.logged [] (log ++ c.calls) := by
  subst h
  rw [LawfulStored.withTable_table, quiet, unused_nil]

namespace Operator
variable {faulty : Prop} {i : Instance}

/-- Configuration text that has been settled is looked at and left alone. -/
theorem ConfSettled.idle {space uid text : String} {pod pod' : PodSpec}
    {before after after' : Table ConfigMap} {verbs verbs' : List Verb} {x : Result PodSpec}
    (h : ConfSettled faulty i space uid text pod before (.ok pod') verbs after)
    (h' : ConfSettled False i space uid text pod after x verbs' after') :
    x = .ok pod' ∧ verbs' = [.get] ∧ after' = after := by
  generalize hy : Except.ok pod' = y at h
  cases h with
  | removed empty h =>
    obtain ⟨o, rfl, rfl⟩ := map_eq_ok.1 hy.symm
    cases h' with
    | removed _ h' =>
      obtain ⟨⟨_, rfl⟩, rfl, rfl⟩ := h'.idle h.gone
      exact ⟨rfl, rfl, rfl⟩
    | unmade filled | ensured filled => cases empty.symm.trans filled
  | unmade => cases hy
  | ensured filled made h =>
    obtain ⟨o, rfl, _⟩ := bind_eq_ok.1 hy.symm
    have rests := h.rests applies_compareConfigMap converges_compareConfigMap
    cases h' with
    | removed empty => cases empty.symm.trans filled
    | unmade _ h' => cases h'.symm.trans made
    | ensured _ made' h' =>
      cases made.symm.trans made'
      obtain ⟨rfl, rfl, rfl⟩ := h'.idle rests
      exact ⟨rfl, rfl, rfl⟩

/-- A pass without an error to report has had no failures. -/
theorem failed_of_concluded {E : Equipment ρ} {report : Report} {n : Nat}
    (h : concluded E report = .ok n) : report.failed = [] := by
  unfold concluded Report.error? at h
  cases hf : report.failed with
  | nil => rfl
  | cons failure rest =>
    rw [hf, List.head?_cons] at h
    cases hfind : (failure :: rest).find? Report.isTransient with
    | none | some =>
      rw [hfind] at h
      cases h

theorem concluded_of_flawless {E : Equipment ρ} {report : Report} (h : report.failed = []) :
    concluded E report = .ok (Requeue.afterSuccess E.settings) := by
  unfold concluded Report.error?
  rw [h]
  rfl

theorem Finished.flawless {E : Equipment ρ} {space uid : String} {d : Deployment} {pod : PodSpec}
    {report : Report} {c after : Cluster} {n : Nat}
    (h : Finished faulty E i space uid d pod report c (.ok n) after) : report.failed = [] := by
  generalize hn : Except.ok n = y at h
  cases h with
  | halted | unconfigured => cases hn
  | deployed =>
    obtain ⟨o, rfl, hconcluded⟩ := bind_eq_ok.1 hn.symm
    exact failed_of_concluded hconcluded

/-- The end of a pass that has succeeded finds nothing to write when it is reached again. -/
theorem Finished.idle {E : Equipment ρ} {space uid : String} {d : Deployment}
    {pod : PodSpec} {report : Report} {c after : Cluster} {n : Nat}
    (h : Finished faulty E i space uid d pod report c (.ok n) after) {draws : String → Nat → Draw}
    {report' : Report} {c' after' : Cluster} {x : Result Nat}
    (h' : Finished False { E with draws := draws } i space uid d pod report' c' x after')
    (flawless : report'.failed = []) (sameConf : report'.conf = report.conf)
    (quiet : c'.faults = []) (sameMaps : c'.configMaps = after.configMaps)
    (sameDeployments : c'.deployments = after.deployments) :
    x = .ok n ∧ ∃ log, after' = c'.logged [] (log ++ c'.calls) ∧
      ∀ call ∈ log, call.verb = .get := by
  generalize hn : Except.ok n = y at h
  cases h with
  | halted | unconfigured => cases hn
  | @deployed _ pod' _ _ u mid _ conf called o v ensured called' =>
    obtain ⟨o, rfl, hconcluded⟩ := bind_eq_ok.1 hn.symm
    obtain rfl : mid.configMaps = u := called.table
    obtain rfl : after.deployments = v := called'.table
    rw [← called'.rest_deployment.2, ← sameMaps, ← sameConf] at conf
    have rests := ensured.rests applies_compareDeployment converges_compareDeployment
    cases h' with
    | halted transient =>
      unfold Report.takeTransient at transient
      rw [flawless] at transient
      cases transient
    | unconfigured _ conf' => cases (conf.idle conf').1
    | @deployed _ _ _ _ _ mid' _ conf' called₁ x v' ensured' called₂ =>
      obtain ⟨hpod, rfl, rfl⟩ := conf.idle conf'
      cases hpod
      have hmid : mid'.deployments = after.deployments :=
        called₁.rest_configMap.2.trans sameDeployments
      rw [hmid] at ensured'
      obtain ⟨rfl, rfl, rfl⟩ := ensured'.idle rests
      rw [← hmid] at called₂
      obtain rfl := called₁.idle quiet
      obtain rfl := called₂.idle rfl
      refine ⟨?_, [_, _], rfl, ?_⟩
      · show concluded { E with draws := draws } report' = concluded E report
        rw [concluded_of_flawless flawless,
          concluded_of_flawless (failed_of_concluded hconcluded)]
      · simp [callOn]

end Operator

/-- A pass that has succeeded is quiescent: the same pass made again, with the same answers of the
reader but with any draws, succeeds with the same result and writes nothing. -/
theorem Operator.pass_quiescent (E : Equipment ρ) (small : E.reader.Small) (i : Instance)
    (c : Cluster) (named : c.secrets.Named) (r : ρ) (n : Nat) (c' : Cluster) (r' : ρ)
    (succeeded : (E.operator.pass i).exec (c, r) = (.ok n, (c', r'))) (quiet : c'.faults = [])
    (draws : String → Nat → Draw) :
    ∃ log, (({ E with draws := draws } : Equipment ρ).operator.pass i).exec (c', r) =
      (.ok n, (c'.logged [] (log ++ c'.calls), r')) ∧
        ∀ call ∈ log, call.verb = .get ∨ call.verb = .list := by
  obtain ⟨x, after, r₁, hx, hpassed⟩ := exec_pass E i (fun _ => trivial : c.faults ≠ [] → True) r
  obtain ⟨x', after', r₂, hx', hpassed'⟩ := exec_pass { E with draws := draws } i
    (fun h => h quiet : c'.faults ≠ [] → False) r
  cases hx.symm.trans succeeded
  rw [hx']
  generalize hn : Except.ok n = y at hpassed
  cases hpassed with
  | refused => cases hn
  | @swept space uid d pod prepared p pruned log t mid _ _ swept called _ _ finished =>
    obtain rfl := hn
    have flawless := finished.flawless
    cases hpassed' with
    | refused _ h => exact absurd prepared (h _ _ _ _)
    | @swept _ _ _ _ prepared' q pruned' log' t' mid' _ _ swept' called' _ _ finished' =>
      obtain ⟨rfl, rfl, rfl, rfl⟩ := prepared.unique prepared'
      have hsecrets : c'.secrets = t := finished.secrets.trans called.table
      rw [hsecrets] at swept'
      obtain ⟨rfl, rfl, rfl, rfl, hreads⟩ := swept.idle small prepared.identified prepared.valid
        named flawless swept'
      rw [← hsecrets] at called'
      obtain rfl := called'.idle quiet
      have hfailed : (reportOf q (.ok [])).failed = [] := by
        show q.failed ++ [] = []
        rw [(failed_reportOf flawless).1]
        rfl
      obtain ⟨rfl, more, rfl, hgets⟩ := finished.idle finished' hfailed rfl rfl rfl rfl
      refine ⟨more ++ log', ?_, fun call hc => ?_⟩
      · rw [List.append_assoc]
        rfl
      · exact (List.mem_append.1 hc).elim (fun h => .inl (hgets call h)) (hreads call)

theorem Operator.pass_quiescent_passwordMounted :
    ∃ c' : Cluster, Equipment.onePassword.reader.Small ∧ ({} : Cluster).secrets.Named ∧
      (Equipment.onePassword.operator.pass passwordMounted).exec ({}, ()) = (.ok 300, (c', ())) ∧
      c'.faults = [] ∧
      ∃ log,
        (({ Equipment.onePassword with draws := fun _ _ => .ofSeed [] } :
          Equipment Unit).operator.pass passwordMounted).exec (c', ()) =
            (.ok 300, (c'.logged [] (log ++ c'.calls), ())) ∧
          ∀ call ∈ log, call.verb = .get ∨ call.verb = .list := by
  have small : Equipment.onePassword.reader.Small := SourceReader.small_shared fun key value h => by
    rw [Dict.get?_insert] at h
    split at h
    · cases h
      decide
    · cases h
  have hresult :
      ((Equipment.onePassword.operator.pass passwordMounted).exec ({}, ())).1 = .ok 300 := by
    decide +kernel
  have quiet :
      ((Equipment.onePassword.operator.pass passwordMounted).exec ({}, ())).2.1.faults = [] := by
    decide +kernel
  generalize hrun :
    (Equipment.onePassword.operator.pass passwordMounted).exec ({}, ()) = y at hresult quiet
  obtain ⟨x, c', ⟨⟩⟩ := y
  cases hresult
  exact ⟨c', small, Table.Named.empty, rfl, quiet,
    pass_quiescent Equipment.onePassword small passwordMounted {} Table.Named.empty () 300 c' ()
      hrun quiet _⟩

end ServiceBinding
