import ServiceBinding.Proofs.Binding.Alike
import ServiceBinding.Proofs.Instance.Naming

/-!
Bindings succeed and fail independently. A binding that has failed has changed neither the pod nor
the secrets, so the other bindings come to what they come to where it is not declared at all
(`projectEach_without_failed`). The two worlds are compared turn by turn: at the turn of a binding
that stays they hold the same secrets and the same pod, and the binding is all that differs.
-/
namespace ServiceBinding
open Binding Cluster Convergence Crypto Object Projector
variable {ρ : Type}

/-- The instance with other bindings declared. -/
def Instance.declaring (i : Instance) (bs : List Binding) : Instance :=
  { i with spec := { i.spec with bindings := bs } }

namespace Binding

/-- The bindings of a list that have none of some names. -/
def without (names : List String) (bs : List Binding) : List Binding :=
  bs.filter fun b => !names.contains b.name

theorem without_cons_of_mem {names : List String} {b : Binding} (h : b.name ∈ names)
    (rest : List Binding) : without names (b :: rest) = without names rest := by
  simp [without, h]

theorem without_cons_of_notMem {names : List String} {b : Binding} (h : b.name ∉ names)
    (rest : List Binding) : without names (b :: rest) = b :: without names rest := by
  simp [without, h]

namespace Projector

/-- The progress without the failures of some bindings. -/
def Progress.without (p : Progress) (names : List String) : Progress :=
  { p with failed := p.failed.filter fun f => !names.contains f.1 }

theorem Progress.without_failed {p : Progress} {names : List String} {b : Binding}
    (h : b.name ∈ names) (e : Error) : (p.after b (.error e)).without names = p.without names := by
  simp [Progress.without, Progress.after, h]

theorem Progress.without_after {p : Progress} {names : List String} {b : Binding}
    (h : b.name ∉ names) (x : Result (PodSpec × String)) :
    (p.after b x).without names = (p.without names).after b x := by
  cases x with
  | error e => simp [Progress.without, Progress.after, h]
  | ok y => rfl

end Projector

/-! ### Reports -/

/-- Every binding is reported once, as applied or as failed. -/
theorem ProjectedEach.reported {faulty : Prop} {E : Equipment ρ} {i : Instance}
    {before after : Table Secret} {r r' : ρ} {p p' : Progress} {bs : List Binding}
    {log : List Call} (h : ProjectedEach faulty E i p before r bs p' log after r') :
    (p'.applied ++ p'.failed.map (·.1)).Perm
      (p.applied ++ p.failed.map (·.1) ++ bs.map (·.name)) := by
  induction h with
  | nil => rw [List.map_nil, List.append_nil]
  | @cons p p' _ _ _ _ _ _ b rest x _ _ _ _ ih =>
    refine ih.trans ?_
    rw [List.map_cons]
    cases x with
    | error e => simp [Progress.after]
    | ok y =>
      simp only [Progress.after, List.append_assoc, List.singleton_append]
      exact (List.perm_middle.symm).append_left _

/-- A binding that is reported as failed is not reported as applied. -/
theorem ProjectedEach.notMem_applied {faulty : Prop} {E : Equipment ρ} {i : Instance}
    {pod : PodSpec} {before after : Table Secret} {r r' : ρ} {p : Progress} {bs : List Binding}
    {log : List Call} (nodup : (bs.map (·.name)).Nodup)
    (h : ProjectedEach faulty E i { pod := pod } before r bs p log after r') {name : String}
    (failed : name ∈ p.failed.map (·.1)) : name ∉ p.applied := by
  have once : (p.applied ++ p.failed.map (·.1)).Nodup := h.reported.nodup_iff.2 nodup
  exact fun applied => (List.nodup_append.1 once).2.2 name applied name failed rfl

namespace Projector

/-! ### Runs -/

section Runs
variable (E : Equipment ρ) (i : Instance)

theorem projectEach_declaring (bs : List Binding) :
    E.projector.projectEach (i.declaring bs) = E.projector.projectEach i := by
  funext p l
  induction l generalizing p with
  | nil => rfl
  | cons b rest ih =>
    rw [projectEach, projectEach]
    exact congrArg _ (funext fun r => ih _)

theorem applied_subset_run (p : Progress) (bs : List Binding) (s : Cluster × ρ) :
    p.applied ⊆ ((E.projector.projectEach i p bs).run s).1.applied := by
  obtain ⟨p', log, t, after, r', hp, _, each⟩ :=
    run_projectEach E i bs p (c := s.1) (fun _ => trivial) s.2
  rw [hp]
  exact each.applied_mono

/-- A turn whose binding is not reported as applied has failed and left the secrets alone. -/
theorem exec_project_of_notMem {p : Progress} {b : Binding} {rest : List Binding}
    {s : Cluster × ρ}
    (h : b.name ∉ ((E.projector.projectEach i p (b :: rest)).run s).1.applied) :
    ∃ e t, (E.projector.project i b p.pod).exec s = (.error e, t) ∧
      t.1.secrets = s.1.secrets := by
  obtain ⟨c, r⟩ := s
  obtain ⟨x, verbs, t, after, r', hx, called, turn⟩ :=
    exec_project E i b p.pod (c := c) (fun _ => trivial) r
  rw [run_projectEach_cons, hx] at h
  cases x with
  | error e => exact ⟨e, _, hx, called.table.trans turn.eq_of_error⟩
  | ok y =>
    refine absurd (applied_subset_run E i _ rest _ ?_) h
    exact List.mem_append_right _ (List.mem_singleton_self _)

/-- Bindings that are projected with and without some others, which all fail, come to the same. The
two runs may begin in different states as long as these hold the same secrets. -/
theorem run_projectEach_without (names : List String) {bs : List Binding} {p : Progress}
    {s s' : Cluster × ρ} (secrets : s.1.secrets = s'.1.secrets)
    (failing : ∀ name ∈ names,
      name ∉ ((E.projector.projectEach i p bs).run s).1.applied)
    (same : ∀ earlier b later, bs = earlier ++ b :: later → b.name ∉ names →
      SameAnswers E i b ((E.projector.projectEach i p earlier).run s).2
        ((E.projector.projectEach i (p.without names) (without names earlier)).run s').2) :
    let all := (E.projector.projectEach i p bs).run s
    let alone := (E.projector.projectEach i (p.without names) (without names bs)).run s'
    alone.1 = all.1.without names ∧ all.2.1.secrets = alone.2.1.secrets := by
  induction bs generalizing p s s' with
  | nil => exact ⟨rfl, secrets⟩
  | cons b rest ih =>
    by_cases hb : b.name ∈ names
    · -- The turn is made in the first run only, and leaves nothing there.
      obtain ⟨e, t, hturn, ht⟩ := exec_project_of_notMem E i (failing _ hb)
      rw [without_cons_of_mem hb, run_projectEach_cons, hturn]
      rw [run_projectEach_cons, hturn] at failing
      rw [← Progress.without_failed hb e]
      refine ih (ht.trans secrets) failing fun earlier b' later hsplit hb' => ?_
      have hsame := same (b :: earlier) b' later (congrArg (b :: ·) hsplit) hb'
      rw [without_cons_of_mem hb, run_projectEach_cons, hturn] at hsame
      rw [Progress.without_failed hb e]
      exact hsame
    · -- The turn is made in both runs, from the same secrets and with the same answers.
      have keeps : E.reader.Keeps fun _ _ => True := fun _ _ _ _ _ _ => trivial
      obtain ⟨hresult, hmatched, _⟩ := alike_project E i keeps (.eq _ _) p.pod secrets trivial
        (same [] b rest rfl hb)
      rw [without_cons_of_notMem hb, run_projectEach_cons, run_projectEach_cons]
      rw [run_projectEach_cons] at failing
      rw [show (p.without names).pod = p.pod from rfl, ← hresult, ← Progress.without_after hb]
      refine ih hmatched.tables failing fun earlier b' later hsplit hb' => ?_
      have hsame := same (b :: earlier) b' later (congrArg (b :: ·) hsplit) hb'
      rw [without_cons_of_notMem hb, run_projectEach_cons, run_projectEach_cons,
        show (p.without names).pod = p.pod from rfl, ← hresult, ← Progress.without_after hb]
        at hsame
      exact hsame

end Runs

/-! ### Answers by what is asked -/

section Steady
variable {E : Equipment ρ}

/-- A reader that answers by what it is asked alone, and faults that are not used up, answer a turn
alike wherever it stands. -/
theorem sameAnswers_of_steady (steady : E.reader.Steady) (i : Instance) (b : Binding)
    {c : Cluster} (lasting : Lasting c.faults) (p p' : Progress) (bs bs' : List Binding) (r : ρ) :
    SameAnswers E i b ((E.projector.projectEach i p bs).run (c, r)).2
      ((E.projector.projectEach i p' bs').run (c, r)).2 := by
  have faults : ∀ (p : Progress) (bs : List Binding),
      ((E.projector.projectEach i p bs).run (c, r)).2.1.faults = c.faults := by
    intro p bs
    obtain ⟨p', log, t, after, r', hp, called, _⟩ :=
      run_projectEach E i bs p (c := c) (fun _ => trivial) r
    rw [hp]
    exact called.faults.trans (lasting.unused log)
  refine ⟨fun verbs => ?_, fun expansion refs _ _ => steady.answers _ refs _ _⟩
  rw [faults, faults]

end Steady

/-- **A failed binding leaves no trace.** Take away some of the bindings of a checked instance that
fail, whatever they fail for: the others come to what they came to beside them, with the same pod,
the same bindings applied, the same failures of the rest, the same texts and the same secrets. The
reader and the faults are any that answer each binding that stays alike in both worlds. -/
theorem projectEach_without_failed (E : Equipment ρ) (i : Instance)
    (valid : i.spec.validate = .ok ()) (pod : PodSpec) (c : Cluster) (r : ρ)
    {names : List String}
    (failed : ∀ name ∈ names,
      name ∈ ((E.projector.projectEach i { pod := pod } i.spec.bindings).run
        (c, r)).1.failed.map (·.1))
    (same : ∀ earlier b later, i.spec.bindings = earlier ++ b :: later → b.name ∉ names →
      SameAnswers E i b ((E.projector.projectEach i { pod := pod } earlier).run (c, r)).2
        ((E.projector.projectEach i { pod := pod } (without names earlier)).run (c, r)).2) :
    let i' := i.declaring (without names i.spec.bindings)
    let all := (E.projector.projectEach i { pod := pod } i.spec.bindings).run (c, r)
    let alone := (E.projector.projectEach i' { pod := pod } i'.spec.bindings).run (c, r)
    alone.1.pod = all.1.pod ∧ alone.1.applied = all.1.applied ∧ alone.1.confs = all.1.confs ∧
      alone.1.failed = all.1.failed.filter (fun f => !names.contains f.1) ∧
        alone.2.1.secrets = all.2.1.secrets := by
  obtain ⟨p, log, t, after, r', hp, _, each⟩ :=
    run_projectEach E i i.spec.bindings { pod := pod } (c := c) (fun _ => trivial) r
  have failing : ∀ name ∈ names, name ∉
      ((E.projector.projectEach i { pod := pod } i.spec.bindings).run (c, r)).1.applied := by
    intro name hn
    have hfailed := failed name hn
    rw [hp] at hfailed ⊢
    exact each.notMem_applied (InstanceSpec.nodup_names valid) hfailed
  obtain ⟨hprogress, hsecrets⟩ :=
    run_projectEach_without E i names (p := { pod := pod }) (s := (c, r)) rfl failing same
  intro i' all alone
  have halone : alone = (E.projector.projectEach i { pod := pod }
      (without names i.spec.bindings)).run (c, r) := by
    show (E.projector.projectEach i' { pod := pod } _).run (c, r) = _
    rw [projectEach_declaring]
    rfl
  rw [halone]
  exact ⟨congrArg (·.pod) hprogress, congrArg (·.applied) hprogress,
    congrArg (·.confs) hprogress, congrArg (·.failed) hprogress, hsecrets.symm⟩

end Projector

/-- An instance that mounts the password beside a binding whose config map is missing. -/
def settingsMissing : Instance :=
  passwordMounted.declaring ({
    name := "app"
    sources := [{
      version := "v1"
      kind := "ConfigMap"
      name := "settings"
      projections := [{ source := some "url", env := some "URL" }] }] } ::
    passwordMounted.spec.bindings)

theorem Projector.projectEach_without_failed_settingsMissing :
    let E := Equipment.onePassword
    let pod : PodSpec := { containers := [{ name := "nuxeo" }] }
    let all := (E.projector.projectEach settingsMissing { pod := pod }
      settingsMissing.spec.bindings).run ({}, ())
    let i' := settingsMissing.declaring (without ["app"] settingsMissing.spec.bindings)
    let alone := (E.projector.projectEach i' { pod := pod } i'.spec.bindings).run ({}, ())
    settingsMissing.spec.validate = .ok () ∧ all.1.failed.map (·.1) = ["app"] ∧
      i'.spec.bindings.map (·.name) = ["db"] ∧ alone.1.pod = all.1.pod ∧
        alone.1.applied = all.1.applied ∧ alone.1.confs = all.1.confs ∧
          alone.1.failed = all.1.failed.filter (fun f => !(["app"].contains f.1)) ∧
            alone.2.1.secrets = all.2.1.secrets := by
  have valid : settingsMissing.spec.validate = .ok () := by decide +kernel
  have failed : ((Equipment.onePassword.projector.projectEach settingsMissing
      { pod := { containers := [{ name := "nuxeo" }] } } settingsMissing.spec.bindings).run
        ({}, ())).1.failed.map (·.1) = ["app"] := by decide +kernel
  have steady : Equipment.onePassword.reader.Steady := by
    rintro space name ((_ | _) | kind) ⟨⟩ ⟨⟩ <;> rfl
  have lasting : Lasting ({} : Cluster).faults := by
    rintro f ⟨⟩
  refine ⟨valid, failed, by decide +kernel, ?_⟩
  exact projectEach_without_failed Equipment.onePassword settingsMissing valid _ {} ()
    (fun name hn => failed ▸ hn) fun _ b _ _ _ =>
      sameAnswers_of_steady steady settingsMissing b lasting _ _ _ _ ()

end Binding
end ServiceBinding
