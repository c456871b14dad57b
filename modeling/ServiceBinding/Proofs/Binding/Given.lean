import ServiceBinding.Proofs.Configuration
import ServiceBinding.Proofs.Workload.Listing

/-!
What bindings give to a pod, by name and as declared: a volume that is mounted if a binding shows
files (`files`), one variable for each projection that exposes one, and the list of templates if its
service needs some (`variableNames`). The pod at the end of a sweep lists what it listed before and
what each applied binding gives, in the order of declaration (`ProjectedEach.lists`).
-/
namespace ServiceBinding
open Binding Cluster Convergence Crypto Object Workload
variable {ρ : Type}

/-- The name of the variable that a projection exposes: its value's, or a store's password's. -/
def Projection.variableName? (p : Projection) : Option String :=
  match p.transform with
  | some t => some t.passEnv
  | none => p.env

instance (p : Projection) : Decidable p.ShowsFile :=
  inferInstanceAs (Decidable (_ ∨ _))

namespace Binding

instance (mountBase : String) (b : Binding) : Decidable (b.ShowsFiles mountBase) :=
  match h : expand b mountBase with
  | .ok e =>
    decidable_of_iff (∃ s ∈ e.binding.sources, ∃ p ∈ s.projections, p.ShowsFile)
      ⟨fun hs => ⟨e, h, hs⟩, fun ⟨_, he, hs⟩ => Except.ok.inj (h.symm.trans he) ▸ hs⟩
  | .error _ => .isFalse fun ⟨_, he, _⟩ => nomatch h.symm.trans he

/-- The name of the volume, and of its mount, that a binding gives. -/
def files (mountBase : String) (b : Binding) : List String :=
  if b.ShowsFiles mountBase then [volumeName b.name] else []

/-- The names of the variables that a binding gives, in the order in which it gives them. -/
def variableNames (mountBase : String) (b : Binding) : List String :=
  match expand b mountBase with
  | .ok e =>
    (e.binding.sources.flatMap (·.projections)).filterMap Projection.variableName? ++
      e.templates.map fun _ => templatesVariable
  | .error _ => []

/-- The variables that presets define. -/
def presetVariables : List String :=
  ["ELASTIC_PASSWORD", "ELASTIC_TS_PASS", "KAFKA_PASSWORD", "KAFKA_TS_PASS", "KAFKA_KS_PASS",
    "POSTGRES_PASSWORD"]

theorem Options.mem_presetVariables (o : Options) {resource dir : String} {s : SourceRef}
    (hs : s ∈ (o.generate resource dir).sources) {p : Projection} (hp : p ∈ s.projections)
    {name : String} (named : p.variableName? = some name) : name ∈ presetVariables := by
  unfold generate at hs
  cases hservice : o.service with
  | eck =>
    simp only [hservice, generateEck, List.mem_append, List.mem_ite_nil_right,
      List.mem_singleton] at hs
    rcases hs with rfl | ⟨-, rfl⟩
    all_goals
      cases List.mem_singleton.1 hp
      cases named
      decide
  | strimzi =>
    simp only [hservice, generateStrimzi, List.mem_append, List.mem_ite_nil_right,
      List.mem_singleton] at hs
    rcases hs with (⟨-, rfl⟩ | ⟨-, rfl⟩) | ⟨-, rfl⟩
    all_goals
      cases List.mem_singleton.1 hp
      cases named
      decide
  | crunchy =>
    simp only [hservice, generateCrunchy, List.mem_singleton] at hs
    subst hs
    cases List.mem_singleton.1 hp
    cases named
    decide

/-- What is generated comes before what is written by hand, and defines no other variables than
presets do. -/
theorem sources_of_expand {b : Binding} {e : Expansion} {mountBase : String}
    (h : expand b mountBase = .ok e) : ∃ generated, e.binding.sources = generated ++ b.sources ∧
      ∀ s ∈ generated, ∀ p ∈ s.projections, ∀ name, p.variableName? = some name →
        name ∈ presetVariables := by
  unfold expand at h
  split at h
  · cases h
    exact ⟨[], rfl, nofun⟩
  · split at h
    · cases h
    · obtain ⟨options, _, h⟩ := bind_eq_ok.1 h
      cases h
      exact ⟨_, rfl, fun _ hs _ hp _ => options.mem_presetVariables hs hp⟩

/-- Bindings give at most one volume each. -/
theorem files_sublist (mountBase : String) (bs : List Binding) :
    (bs.flatMap (·.files mountBase)).Sublist (bs.map (volumeName ·.name)) := by
  induction bs with
  | nil => exact .slnil
  | cons b rest ih =>
    rw [List.flatMap_cons, List.map_cons]
    unfold files
    split
    · exact ih.cons_cons _
    · exact ih.cons _

/-- Bindings of different names give different volumes. -/
theorem nodup_files (mountBase : String) {bs : List Binding}
    (nodup : (bs.map (·.name)).Nodup) : (bs.flatMap (·.files mountBase)).Nodup := by
  refine (files_sublist mountBase bs).nodup ?_
  have hnames : bs.map (volumeName ·.name) = (bs.map (·.name)).map volumeName := by
    rw [List.map_map]
    rfl
  rw [hnames]
  exact List.pairwise_map.2 (nodup.imp fun ne he => ne (volumeName_inj.1 he))

theorem mem_files {mountBase name : String} {b : Binding} :
    name ∈ b.files mountBase ↔ b.ShowsFiles mountBase ∧ name = volumeName b.name := by
  unfold files
  split
  · next shows => rw [List.mem_singleton, and_iff_right shows]
  · next hidden => simp [hidden]

/-! ### Plans -/

namespace Plan
variable {P : Primitives} {kept : Dict Bytes}

theorem Realized.variableNames {draw : Draw} {source : Source} {p p' : Plan}
    {projection : Projection} (h : Realized P kept draw source p projection p') :
    p'.env.map (·.name) = p.env.map (·.name) ++ projection.variableName?.toList := by
  unfold Projection.variableName?
  cases h with
  | store transforms h =>
    obtain ⟨_, _, _, _, _, _, _, _, _, _, rfl⟩ := addStore_eq_ok.1 h
    rw [transforms]
    exact List.map_append
  | literal plain _ exposes | reference plain _ exposes | derived plain _ exposes =>
    rw [plain, exposes]
    exact List.map_append
  | file plain _ hidden =>
    rw [plain, hidden]
    exact (List.append_nil _).symm

theorem variableNames_of_realizeAll {draws : Nat → Draw} {source : Source}
    {projections : List Projection} {k : Nat} {p p' : Plan}
    (h : p.realizeAll P kept draws source k projections = .ok p') :
    p'.env.map (·.name) =
      p.env.map (·.name) ++ projections.filterMap Projection.variableName? := by
  induction projections generalizing k p with
  | nil =>
    cases h
    exact (List.append_nil _).symm
  | cons projection rest ih =>
    obtain ⟨q, hq, h⟩ := bind_eq_ok.1 h
    rw [ih h, (realize_eq_ok.1 hq).variableNames, List.append_assoc]
    cases hv : projection.variableName? with
    | none => rw [List.filterMap_cons_none hv, Option.toList_none, List.nil_append]
    | some name => rw [List.filterMap_cons_some hv, Option.toList_some, List.singleton_append]

/-- A plan has the variables of its sources' projections in their order. -/
theorem variableNames_of_gather {draws : Nat → Draw} {sources : List (SourceRef × Source)}
    {k : Nat} {p p' : Plan} (h : p.gather P kept draws k sources = .ok p') :
    p'.env.map (·.name) = p.env.map (·.name) ++
      ((sources.map (·.1)).flatMap (·.projections)).filterMap Projection.variableName? := by
  induction sources generalizing k p with
  | nil =>
    cases h
    exact (List.append_nil _).symm
  | cons source rest ih =>
    obtain ⟨q, hq, h⟩ := bind_eq_ok.1 h
    rw [ih h, variableNames_of_realizeAll hq, List.append_assoc, List.map_cons,
      List.flatMap_cons, List.filterMap_append]

end Plan

section Drafts
variable {E : Equipment ρ} {i : Instance} {b : Binding} {found : Option Secret} {pod : PodSpec}
  {r r' : ρ} {uid : String} {d : Draft}

theorem Drafted.files (h : Drafted E i b found pod r uid d r') :
    d.plan.files b.name = b.files E.settings.mountBase := by
  unfold Plan.files Binding.files
  by_cases shows : b.ShowsFiles E.settings.mountBase
  · have hne := h.items_ne_nil_iff.2 shows
    rw [if_pos shows, if_neg (mt List.isEmpty_iff.1 hne)]
  · have hempty : d.plan.items = [] := not_not.1 (mt h.items_ne_nil_iff.1 shows)
    rw [if_neg shows, hempty]
    rfl

theorem Drafted.variableNames (h : Drafted E i b found pod r uid d r') :
    d.plan.env.map (·.name) ++ (d.expansion.templates.map fun _ => templatesVariable) =
      b.variableNames E.settings.mountBase := by
  have hsources : d.sources.map (·.1) = d.expansion.binding.sources := by
    rw [SourceReader.map_fst_readAll h.read, map_fst_check h.checked]
  unfold Binding.variableNames
  rw [h.expanded, Plan.variableNames_of_gather h.gathered, hsources]
  rfl

end Drafts

/-! ### Sweeps -/

section Sweeps
variable {faulty : Prop} {E : Equipment ρ} {i : Instance} {before after : Table Secret}
  {r r' : ρ} {volumes mounts env : List String}

/-- A turn that has gone through adds what its binding gives. -/
theorem Projected.lists {b : Binding} {pod pod' : PodSpec} {conf : String} {verbs : List Verb}
    (h : Projected faulty E i b pod before r (.ok (pod', conf)) verbs after r')
    (listed : Lists pod volumes.eraseDups mounts.eraseDups env.eraseDups) :
    Lists pod' (volumes ++ b.files E.settings.mountBase).eraseDups
      (mounts ++ b.files E.settings.mountBase).eraseDups
      (env ++ b.variableNames E.settings.mountBase).eraseDups := by
  obtain ⟨uid, d, drafted, hx, _⟩ := h.drafted
  cases hx
  rw [← drafted.files, ← drafted.variableNames]
  exact listed_of_apply drafted.applied listed

/-- A pod lists after some turns what it listed before and what the bindings applied in them give,
in their order. -/
theorem ProjectedEach.lists {p p' : Projector.Progress} {bs : List Binding} {log : List Call}
    (h : ProjectedEach faulty E i p before r bs p' log after r')
    (listed : Lists p.pod volumes.eraseDups mounts.eraseDups env.eraseDups) :
    ∃ applied : List Binding, applied.Sublist bs ∧
      p'.applied = p.applied ++ applied.map (·.name) ∧
      Lists p'.pod (volumes ++ applied.flatMap (·.files E.settings.mountBase)).eraseDups
        (mounts ++ applied.flatMap (·.files E.settings.mountBase)).eraseDups
        (env ++ applied.flatMap (·.variableNames E.settings.mountBase)).eraseDups := by
  induction h generalizing volumes mounts env with
  | nil p =>
    refine ⟨[], List.Sublist.slnil, (List.append_nil _).symm, ?_⟩
    simp only [List.flatMap_nil, List.append_nil]
    exact listed
  | @cons p p' _ _ _ _ _ _ b rest x _ _ first _ ih =>
    cases x with
    | error e =>
      obtain ⟨applied, hsub, happlied, hlists⟩ := ih listed
      exact ⟨applied, hsub.cons b, happlied, hlists⟩
    | ok y =>
      obtain ⟨pod', conf⟩ := y
      obtain ⟨applied, hsub, happlied, hlists⟩ := ih (first.lists listed)
      refine ⟨b :: applied, hsub.cons_cons b, ?_, ?_⟩
      · rw [happlied, List.map_cons, List.append_cons]
        rfl
      · simp only [List.flatMap_cons, ← List.append_assoc]
        exact hlists

end Sweeps

end Binding

end ServiceBinding
