import ServiceBinding.Proofs.Binding.Given
import ServiceBinding.Proofs.Binding.Applying
import ServiceBinding.Proofs.Equipment
import ServiceBinding.Proofs.Workload.Templates

/-!
The templates that the server runs with. Whatever sources hold and whatever becomes of the secrets,
the pod at the end of a sweep lists the templates of the instance and those of the bindings whose
turns have gone through, in the order of declaration (`templates_projectAll`): no variable if there
are none, else one plain variable with those that are not empty, each where it comes first.
-/
namespace ServiceBinding
open Binding Convergence Object Workload
variable {σ : Type}

/-- Whether no projection of some sources exposes a variable under the name of the list of
templates. -/
def SparesTemplates (sources : List SourceRef) : Prop :=
  ∀ s ∈ sources, ∀ p ∈ s.projections, p.variableName? ≠ some templatesVariable

instance (sources : List SourceRef) : Decidable (SparesTemplates sources) :=
  inferInstanceAs (Decidable (∀ s ∈ sources, ∀ p ∈ s.projections, _ ≠ _))

namespace Binding

/-- The templates that a binding gives. -/
def templates (mountBase : String) (b : Binding) : List String :=
  match expand b mountBase with
  | .ok e => e.templates
  | .error _ => []

/-! ### Presets -/

section Presets
variable {b : Binding} {e : Expansion} {mountBase : String}

/-- The templates of a preset have no commas. -/
theorem Options.generate_templates (o : Options) (resource dir : String) :
    ∀ t ∈ (o.generate resource dir).templates, ',' ∉ t.toList := by
  have hplain : ∀ t ∈ ["postgresql"], ',' ∉ t.toList := by decide
  unfold Options.generate
  cases o.service with
  | eck | strimzi => exact nofun
  | crunchy => exact hplain

theorem spares_of_expand (spares : SparesTemplates b.sources) (h : expand b mountBase = .ok e) :
    SparesTemplates e.binding.sources ∧ ∀ t ∈ e.templates, ',' ∉ t.toList := by
  constructor
  · obtain ⟨generated, hsources, hnames⟩ := sources_of_expand h
    rw [hsources]
    exact List.forall_mem_append.2 ⟨fun s hs p hp he =>
      absurd (hnames s hs p hp _ he) (by decide), spares⟩
  · unfold expand at h
    split at h
    · cases h
      exact nofun
    · split at h
      · cases h
      · obtain ⟨options, _, h⟩ := bind_eq_ok.1 h
        cases h
        exact options.generate_templates _ _

end Presets

end Binding

/-! ### Plans -/

section Plans
variable {plan : Plan} {name mountBase : String} {listed added : List String}
  {c c' : Container}

/-- Equipping a container adds templates, if no variable has the name of their list. -/
theorem Workload.Enables.equip (spares : templatesVariable ∉ plan.env.map (·.name))
    (plain : ∀ t ∈ listed ++ added, ',' ∉ t.toList)
    (h : (plan.equip name mountBase added c).toResult = .ok c') (enables : Enables c listed) :
    Enables c' (listed ++ added) := by
  obtain ⟨mounted, mid, hmounted, henv, htemplates⟩ := Plan.steps_of_equip h
  have henables : Enables mounted listed := by
    rcases hmounted with ⟨-, rfl⟩ | ⟨-, hmounted⟩
    · exact enables
    · exact enables.addMount hmounted
  have hother : ∀ var ∈ plan.env, var.name ≠ templatesVariable :=
    fun var hvar he => spares (he ▸ List.mem_map_of_mem hvar)
  exact (henables.forEach_mergeEnv hother henv).addTemplates plain htemplates

end Plans

namespace Binding

/-! ### Turns -/

namespace Projector
variable {P : Projector σ} {i : Instance} {b : Binding} {pod pod' : PodSpec} {conf : String}
  {s t : σ}

/-- A plan that is collected is gathered from the sources as they have been read. -/
theorem gathered_of_collect {space binding : String} {kept : Dict Bytes} {k : Nat}
    {plan plan' : Plan} {sources : List (SourceRef × Access)}
    (h : (P.collect space binding kept k plan sources).exec s = (.ok plan', t)) :
    ∃ found, found.map (·.1) = sources.map (·.1) ∧
      plan.gather P.primitives kept (P.draws binding) k found = .ok plan' := by
  induction sources generalizing k plan s with
  | nil =>
    cases h
    exact ⟨[], rfl, rfl⟩
  | cons source rest ih =>
    obtain ⟨ref, access⟩ := source
    unfold collect at h
    obtain ⟨read, s₁, _, h⟩ := Action.exec_bind_ok.1 h
    obtain ⟨mid, s₂, hmid, h⟩ := Action.exec_bind_ok.1 h
    rw [exec_attributed, Prod.mk.injEq, mapError_eq_ok] at hmid
    obtain ⟨found, hfound, hgather⟩ := ih h
    refine ⟨(ref, read) :: found, congrArg (ref :: ·) hfound, ?_⟩
    exact bind_eq_ok.2 ⟨mid, hmid.1, hgather⟩

/-- A turn that goes through applies a plan with the variables of the binding's projections. -/
theorem applied_of_project (h : (P.project i b pod).exec s = (.ok (pod', conf), t)) :
    ∃ (e : Expansion) (plan : Plan), expand b P.mountBase = .ok e ∧
      plan.env.map (·.name) =
        (e.binding.sources.flatMap (·.projections)).filterMap Projection.variableName? ∧
      plan.apply b.name P.mountBase e.templates pod = .ok pod' := by
  unfold project at h
  obtain ⟨e, s₁, hexpand, h⟩ := Action.exec_bind_ok.1 h
  obtain ⟨refs, s₂, hcheck, h⟩ := Action.exec_bind_ok.1 h
  obtain ⟨uid, s₃, _, h⟩ := Action.exec_bind_ok.1 h
  obtain ⟨kept, s₄, _, h⟩ := Action.exec_bind_ok.1 h
  obtain ⟨plan, s₅, hcollect, h⟩ := Action.exec_bind_ok.1 h
  obtain ⟨applied, s₆, happly, h⟩ := Action.exec_bind_ok.1 h
  obtain ⟨_, s₇, _, h⟩ := Action.exec_bind_ok.1 h
  cases h
  rw [exec_attributed, Prod.mk.injEq, mapError_eq_ok] at hexpand hcheck happly
  obtain ⟨found, hfound, hgather⟩ := gathered_of_collect hcollect
  have hnames := Plan.variableNames_of_gather hgather
  rw [hfound, map_fst_check hcheck.1] at hnames
  exact ⟨e, plan, hexpand.1, hnames, happly.1⟩

/-- The bindings whose turns go through, in their order. -/
def appliedTurns (P : Projector σ) (i : Instance) :
    Progress → List Binding → StateM σ (List Binding)
  | _, [] => return []
  | p, b :: rest => do
    let x ← (P.project i b p.pod).run
    let later ← appliedTurns P i (p.after b x) rest
    return if x.isOk then b :: later else later

/-- Whether the server's container is alone in a pod, and lists some templates. -/
def EnablesIn (pod : PodSpec) (listed : List String) : Prop :=
  ∃ c, pod.containers = [c] ∧ Enables c listed

/-- A turn that goes through adds the templates of its binding. -/
theorem enablesIn_of_project {listed : List String} (spares : SparesTemplates b.sources)
    (plain : ∀ t ∈ listed, ',' ∉ t.toList) (enables : EnablesIn pod listed)
    (h : (P.project i b pod).exec s = (.ok (pod', conf), t)) :
    EnablesIn pod' (listed ++ b.templates P.mountBase) ∧
      ∀ t ∈ listed ++ b.templates P.mountBase, ',' ∉ t.toList := by
  obtain ⟨e, plan, hexpand, hnames, happly⟩ := applied_of_project h
  obtain ⟨c, alone, hc⟩ := enables
  obtain ⟨hspares, hplain⟩ := spares_of_expand spares hexpand
  have htemplates : b.templates P.mountBase = e.templates := by
    unfold Binding.templates
    rw [hexpand]
  have hother : templatesVariable ∉ plan.env.map (·.name) := by
    rw [hnames, List.mem_filterMap]
    rintro ⟨p, hp, hname⟩
    obtain ⟨source, hsource, hp⟩ := List.mem_flatMap.1 hp
    exact hspares source hsource p hp hname
  have hall := List.forall_mem_append.2 ⟨plain, hplain⟩
  obtain ⟨c', hc', alone'⟩ := plan.equip_of_apply alone hc.server happly
  rw [htemplates]
  exact ⟨⟨c', alone', hc.equip hother hall hc'⟩, hall⟩

/-- Some turns add the templates of the bindings whose turns go through. -/
theorem enablesIn_projectEach {p : Progress} {bs : List Binding} {listed : List String}
    (spares : ∀ b ∈ bs, SparesTemplates b.sources) (plain : ∀ t ∈ listed, ',' ∉ t.toList)
    (enables : EnablesIn p.pod listed) (s : σ) :
    let applied := ((P.appliedTurns i p bs).run s).1
    let p' := ((P.projectEach i p bs).run s).1
    applied.Sublist bs ∧ p'.applied = p.applied ++ applied.map (·.name) ∧
      EnablesIn p'.pod (listed ++ applied.flatMap (·.templates P.mountBase)) := by
  induction bs generalizing p listed s with
  | nil =>
    refine ⟨.slnil, (List.append_nil _).symm, ?_⟩
    show EnablesIn p.pod (listed ++ [])
    rw [List.append_nil]
    exact enables
  | cons b rest ih =>
    obtain ⟨hspares, hrest⟩ := List.forall_mem_cons.1 spares
    obtain ⟨⟨x, t⟩, hx⟩ : ∃ y, (P.project i b p.pod).exec s = y := ⟨_, rfl⟩
    have happlied : ((P.appliedTurns i p (b :: rest)).run s).1 =
        let later := ((P.appliedTurns i (p.after b x) rest).run t).1
        if x.isOk then b :: later else later := by
      show (let y := (P.project i b p.pod).exec s
        let later := ((P.appliedTurns i (p.after b y.1) rest).run y.2).1
        if y.1.isOk then b :: later else later) = _
      rw [hx]
    have hstep : (P.projectEach i p (b :: rest)).run s =
        (P.projectEach i (p.after b x) rest).run t := by
      show (let y := (P.project i b p.pod).exec s
        (P.projectEach i (p.after b y.1) rest).run y.2) = _
      rw [hx]
    rw [happlied, hstep]
    cases x with
    | error e =>
      obtain ⟨hsub, hnames, hlists⟩ := ih (p := p.after b (.error e)) hrest plain enables t
      exact ⟨hsub.cons b, hnames, hlists⟩
    | ok y =>
      obtain ⟨henables, hplain⟩ := enablesIn_of_project hspares plain enables hx
      obtain ⟨hsub, hnames, hlists⟩ := ih (p := p.after b (.ok y)) hrest hplain henables t
      refine ⟨hsub.cons_cons b, ?_, ?_⟩
      · rw [hnames]
        exact List.append_assoc p.applied [b.name] _
      · rw [List.append_assoc] at hlists
        exact hlists

end Projector

end Binding

/-- The pod that instances start with lists the instance's own templates. -/
theorem enablesIn_of_deployment {i : Instance} {d : Deployment} {pod : PodSpec}
    (plain : ∀ t ∈ i.spec.templates, ',' ∉ t.toList)
    (built : Workload.deployment i = .ok d) (podded : Workload.podSpec d = .ok pod) :
    Projector.EnablesIn pod i.spec.templates := by
  obtain ⟨c, hc, h⟩ := bind_eq_ok.1 built
  obtain ⟨m, _, h⟩ := bind_eq_ok.1 h
  cases h
  cases podded
  have bare : Enables { name := serverContainer, image := some i.spec.image } [] := ⟨rfl, rfl⟩
  exact ⟨c, rfl, bare.addTemplates plain hc⟩

namespace Binding.Projector

/-- **The list of templates**: for every projector, whatever its reader and its secrets, and every
instance whose own templates have no comma and none of whose projections exposes a variable under
the name of the list, the server's container at the end of a sweep has no such variable if neither
the instance nor any binding whose turn has gone through has a template. Otherwise it has one, a
plain one: the templates of the instance and of these bindings, in the order of declaration, but for
those that are empty or have come before, with commas between them. -/
theorem templates_projectAll (P : Projector σ) (i : Instance) (d : Deployment) (pod : PodSpec)
    (plain : ∀ t ∈ i.spec.templates, ',' ∉ t.toList)
    (spares : ∀ b ∈ i.spec.bindings, SparesTemplates b.sources)
    (built : Workload.deployment i = .ok d) (podded : Workload.podSpec d = .ok pod) (s : σ) :
    let swept := ((P.projectAll i pod).run s).1
    let applied := ((P.appliedTurns i { pod := pod } i.spec.bindings).run s).1
    let templates := i.spec.templates ++ applied.flatMap (·.templates P.mountBase)
    applied.Sublist i.spec.bindings ∧ applied.map (·.name) = swept.2.applied ∧
      ∃ c, swept.1.containers = [c] ∧ c.name = serverContainer ∧
        (c.env.getD []).filter (·.name == templatesVariable) =
          if templates = [] then []
          else [.plain templatesVariable
            (",".intercalate (templates.filter (· ≠ "")).eraseDups)] := by
  have henables := enablesIn_of_deployment plain built podded
  obtain ⟨hsub, hnames, c, alone, hc⟩ :=
    enablesIn_projectEach (P := P) (i := i) (p := { pod := pod }) spares plain henables s
  refine ⟨hsub, hnames.symm, c, alone, hc.server, hc.listed.trans ?_⟩
  simp only [enabling, List.isEmpty_iff]
  rfl

/-- An instance with a template of its own, and a database cluster that needs another one. -/
def clusterBound : Instance where
  metadata := { name := some "nx", space := some "prod", uid := some "u1" }
  spec := {
    templates := ["custom"]
    bindings := [{ name := "db", preset := some { service := "crunchy", resource := "pg" } }] }

theorem templates_projectAll_clusterBound :
    let P := Equipment.onePassword.projector
    let pod : PodSpec := { containers := [{
      name := "nuxeo"
      image := some "nuxeo:latest"
      env := some [.plain "NUXEO_TEMPLATES" "custom"] }] }
    let swept := ((P.projectAll clusterBound pod).run ({}, ())).1
    (∀ t ∈ clusterBound.spec.templates, ',' ∉ t.toList) ∧
      (∀ b ∈ clusterBound.spec.bindings, SparesTemplates b.sources) ∧
      (∃ d, Workload.deployment clusterBound = .ok d ∧ Workload.podSpec d = .ok pod) ∧
      swept.2.applied = ["db"] ∧
      ∃ c, swept.1.containers = [c] ∧ c.name = "nuxeo" ∧
        (c.env.getD []).filter (·.name == "NUXEO_TEMPLATES") =
          [.plain "NUXEO_TEMPLATES" "custom,postgresql"] := by
  intro P pod swept
  have plain : ∀ t ∈ clusterBound.spec.templates, ',' ∉ t.toList := by decide
  have spares : ∀ b ∈ clusterBound.spec.bindings, SparesTemplates b.sources := by decide
  obtain ⟨d, built, podded⟩ : ∃ d, Workload.deployment clusterBound = .ok d ∧
      Workload.podSpec d = .ok pod := ⟨_, rfl, rfl⟩
  have applied : ((P.appliedTurns clusterBound { pod := pod }
      clusterBound.spec.bindings).run ({}, ())).1 = clusterBound.spec.bindings := by
    decide +kernel
  obtain ⟨-, hnames, c, alone, server, listed⟩ :=
    templates_projectAll P clusterBound d pod plain spares built podded ({}, ())
  rw [applied] at hnames listed
  refine ⟨plain, spares, ⟨d, built, podded⟩, hnames.symm, c, alone, server, listed.trans ?_⟩
  decide +kernel

end Binding.Projector

end ServiceBinding
