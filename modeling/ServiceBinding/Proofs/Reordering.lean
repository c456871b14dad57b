import ServiceBinding.Proofs.Binding.Alike
import ServiceBinding.Proofs.Binding.Rearranging
import ServiceBinding.Proofs.Binding.Refusing

/-!
The order of sources and projections. A binding without transforms and without a preset comes to the
same whatever the order is in which it lists its sources, and the projections of each, as long as
the reader's answers do not depend on the order either (`project_reordered`). Every conflict between
two projections is one in both orders.
-/
namespace ServiceBinding
open Binding Cluster Convergence Crypto Object
variable {ρ : Type}

/-! ### Lists in another order -/

/-- Whether a list has counterparts of the elements of another one, in some order. -/
def Reorders {α : Type} (R : α → α → Prop) (l l' : List α) : Prop :=
  ∃ mid, List.Forall₂ R l mid ∧ mid.Perm l'

section Reorders
variable {α β : Type} {R : α → α → Prop} {T : β → β → Prop} {l l' : List α}

theorem Reorders.symm (symm : ∀ {a a'}, R a a' → R a' a) (h : Reorders R l l') :
    Reorders R l' l := by
  obtain ⟨mid, hmid, perm⟩ := h
  exact List.perm_comp_forall₂ perm.symm (hmid.flip.imp fun _ _ hr => symm hr)

/-- What the elements of a list give, their counterparts give in the same order as these. -/
theorem Reorders.map {S : α → β → Prop} (h : Reorders R l l')
    (step : ∀ {a a' b}, R a a' → S a b → ∃ b', S a' b' ∧ T b b') {x : List β}
    (given : List.Forall₂ S l x) : ∃ x', List.Forall₂ S l' x' ∧ Reorders T x x' := by
  obtain ⟨mid, hmid, perm⟩ := h
  obtain ⟨y, hy, hxy⟩ : ∃ y, List.Forall₂ S mid y ∧ List.Forall₂ T x y := by
    clear perm
    induction hmid generalizing x with
    | nil =>
      cases given
      exact ⟨[], .nil, .nil⟩
    | cons hfirst _ ih =>
      cases given with
      | cons ha hrest =>
        obtain ⟨b', hb', hbb'⟩ := step hfirst ha
        obtain ⟨y, hy, hxy⟩ := ih hrest
        exact ⟨b' :: y, .cons hb' hy, .cons hbb' hxy⟩
  obtain ⟨x', hx', perm'⟩ := List.perm_comp_forall₂ perm.symm hy
  exact ⟨x', hx', y, hxy, perm'.symm⟩

end Reorders

/-! ### Bindings in another order -/

/-- Whether two references are to one resource, with the same projections in some order. -/
structure SourceRef.Shuffled (s s' : SourceRef) : Prop where
  rest : s' = { s with projections := s'.projections }
  projections : s.projections.Perm s'.projections

/-- Whether two bindings are the same but for the order of their sources and of the projections of
each. -/
structure Binding.Reordered (b b' : Binding) : Prop where
  rest : b' = { b with sources := b'.sources }
  sources : Reorders SourceRef.Shuffled b.sources b'.sources

theorem SourceRef.Shuffled.symm {s s' : SourceRef} (h : s.Shuffled s') : s'.Shuffled s :=
  ⟨by rw [h.rest], h.projections.symm⟩

theorem Binding.Reordered.symm {b b' : Binding} (h : b.Reordered b') : b'.Reordered b :=
  ⟨by rw [h.rest], h.sources.symm .symm⟩

namespace Binding

/-! ### Checking -/

theorem any_perm {α : Type} {p : α → Bool} {l l' : List α} (perm : l.Perm l') :
    l'.any p = l.any p := by
  rw [Bool.eq_iff_iff, List.any_eq_true, List.any_eq_true]
  simp only [perm.mem_iff]

theorem addressed_perm {access : Access} {l l' : List Projection} (perm : l.Perm l')
    (h : Addressed access l) : Addressed access l' := by
  cases access with
  | keyed =>
    have h : ¬ l.any (·.path.isSome) = true := h
    show ¬ l'.any (·.path.isSome) = true
    rwa [any_perm perm]
  | structured =>
    obtain ⟨hkey, hpaths⟩ := h
    refine ⟨by rwa [any_perm perm], fun p hp => hpaths p (perm.mem_iff.2 hp)⟩

/-- A source is checked alike with its projections in another order. -/
theorem checkSource_shuffled {catalog : Catalog} {s s' : SourceRef} (h : s.Shuffled s')
    {access : Access} (checked : checkSource catalog s = .ok access) :
    checkSource catalog s' = .ok access := by
  rw [checkSource_eq_ok] at checked ⊢
  obtain ⟨named, resolved, unmixed, each, addressed⟩ := checked
  rw [any_perm h.projections.symm, any_perm h.projections.symm] at unmixed
  rw [h.rest]
  exact ⟨named, resolved, unmixed, fun p hp => each p (h.projections.mem_iff.2 hp),
    addressed_perm h.projections addressed⟩

/-! ### Reading -/

/-- Whether two sources have the same of something beside the same projections in some order. -/
def ShuffledWith {α : Type} (x y : SourceRef × α) : Prop := x.1.Shuffled y.1 ∧ y.2 = x.2

theorem reorders_map_fst {α : Type} {l l' : List (SourceRef × α)} (h : Reorders ShuffledWith l l') :
    Reorders SourceRef.Shuffled (l.map (·.1)) (l'.map (·.1)) := by
  obtain ⟨mid, hmid, perm⟩ := h
  refine ⟨mid.map (·.1), ?_, perm.map _⟩
  rw [List.forall₂_map_left_iff, List.forall₂_map_right_iff]
  exact hmid.imp fun _ _ h => h.1

/-- A steady reader reads just what it answers, in whichever state it is. -/
theorem SourceReader.Steady.readAll {reader : SourceReader ρ} (steady : reader.Steady)
    {space : String} {refs : List (SourceRef × Access)} {found : List (SourceRef × Source)}
    (r r' : ρ) :
    (∃ t, (reader.readAll space refs).exec r' = (.ok found, t)) ↔
      List.Forall₂ (fun ref s => s.1 = ref.1 ∧
        ((reader.read space ref.1.name ref.2).exec r).1 = .ok s.2) refs found := by
  induction refs generalizing found r' with
  | nil =>
    rw [List.forall₂_nil_left_iff]
    exact ⟨fun ⟨_, h⟩ => (Except.ok.inj (congrArg Prod.fst h)).symm, fun h => ⟨r', h ▸ rfl⟩⟩
  | cons ref rest ih =>
    simp only [List.forall₂_cons_left_iff, SourceReader.readAll, Action.exec_bind_ok]
    constructor
    · rintro ⟨t, source, mid, hsource, others, last, hothers, h⟩
      cases h
      refine ⟨_, _, ⟨rfl, ?_⟩, (ih mid).1 ⟨_, hothers⟩, rfl⟩
      rw [steady _ _ _ r r', hsource]
    · rintro ⟨⟨_, source⟩, others, ⟨rfl, hsource⟩, hothers, rfl⟩
      rw [steady _ _ _ r r'] at hsource
      obtain ⟨t, ht⟩ := (ih ((reader.read space ref.1.name ref.2).exec r').2).2 hothers
      exact ⟨t, source, _, Prod.ext hsource rfl, others, t, ht, rfl⟩

theorem requests_perm {found found' : List (SourceRef × Source)}
    (h : Reorders ShuffledWith found found') : (requests found).Perm (requests found') := by
  obtain ⟨mid, hmid, perm⟩ := h
  refine List.Perm.trans ?_ (perm.flatMap_right _)
  clear perm
  induction hmid with
  | nil => exact .nil
  | cons hfirst _ ih =>
    obtain ⟨hshuffled, hsource⟩ := hfirst
    unfold requests at ih ⊢
    rw [List.flatMap_cons, List.flatMap_cons, hsource]
    exact (hshuffled.projections.map _).append ih

/-! ### Runs -/

/-- Whether two results are related values, or both of them errors. -/
inductive Agree {α β : Type} (R : α → β → Prop) : Result α → Result β → Prop
  | ok {a : α} {b : β} (h : R a b) : Agree R (.ok a) (.ok b)
  | error (e e' : Error) : Agree R (.error e) (.error e')

/-- Results agree if each value of the one has its counterpart among those of the other. -/
theorem agree_of_imp {α β : Type} {R : α → β → Prop} {x : Result α} {y : Result β}
    (forth : ∀ a, x = .ok a → ∃ b, y = .ok b ∧ R a b) (back : ∀ b, y = .ok b → ∃ a, x = .ok a) :
    Agree R x y := by
  cases x with
  | ok a =>
    obtain ⟨b, rfl, h⟩ := forth a rfl
    exact .ok h
  | error e =>
    cases y with
    | ok b =>
      obtain ⟨_, ⟨⟩⟩ := back b rfl
    | error e' => exact .error e e'

/-- Whether two runs agree in their results and leave related states. -/
structure SameRun {σ α β : Type} (S : σ → σ → Prop) (R : α → β → Prop) (x : Result α × σ)
    (y : Result β × σ) : Prop where
  result : Agree R x.1 y.1
  state : S x.2 y.2

section Runs
variable {σ α β α' β' : Type} {S S' : σ → σ → Prop} {R : α → β → Prop} {Q : α' → β' → Prop}
  {s s' : σ}

theorem SameRun.bind_of_imp {f : Action σ α} {g : Action σ β} {next : α → Action σ α'}
    {next' : β → Action σ β'} (first : SameRun S R (f.exec s) (g.exec s'))
    (ended : ∀ {t t'}, S t t' → S' t t')
    (then' : ∀ a b t t', R a b → S t t' → SameRun S' Q ((next a).exec t) ((next' b).exec t')) :
    SameRun S' Q ((f >>= next).exec s) ((g >>= next').exec s') := by
  rw [Action.exec_bind, Action.exec_bind]
  obtain ⟨result, state⟩ := first
  generalize f.exec s = x at result state
  generalize g.exec s' = y at result state
  obtain ⟨x, t⟩ := x
  obtain ⟨y, t'⟩ := y
  cases result with
  | ok h => exact then' _ _ _ _ h state
  | error e e' => exact ⟨.error e e', ended state⟩

theorem SameRun.attributed {x : Result α} {y : Result β} (h : Agree R x y) (name : String)
    (related : S s s') :
    SameRun S R ((Binding.attributed name x).exec s) ((Binding.attributed name y).exec s') := by
  cases h with
  | ok h => exact ⟨.ok h, related⟩
  | error e e' => exact ⟨.error _ _, related⟩

/-- What is alike from two states runs alike from them. -/
theorem SameRun.of_alike {f : Action σ α} (h : f.Alike S s s') :
    SameRun S Eq (f.exec s) (f.exec s') := by
  obtain ⟨same, related⟩ := h
  refine ⟨?_, related⟩
  rw [← same]
  cases (f.exec s).1 with
  | ok a => exact .ok rfl
  | error e => exact .error e e

end Runs

/-! ### Projecting -/

/-- Whether sources are without transforms. -/
def Untransformed (sources : List SourceRef) : Prop :=
  ∀ s ∈ sources, ∀ p ∈ s.projections, p.transform = none

theorem Untransformed.shuffled {sources sources' : List SourceRef} (plain : Untransformed sources)
    (h : Reorders SourceRef.Shuffled sources sources') : Untransformed sources' := by
  obtain ⟨mid, hmid, perm⟩ := h
  intro s' hs' p hp
  obtain ⟨s, hs, hshuffled⟩ := exists_of_forall₂ hmid s' (perm.mem_iff.2 hs')
  exact plain s hs p (hshuffled.projections.mem_iff.2 hp)

section Projecting
variable {E : Equipment ρ} (steady : E.reader.Steady) {space binding : String} {kept : Dict Bytes}
  {plan plan' : Plan} {refs refs' : List (SourceRef × Access)} {c c' : Cluster} {r r' : ρ}
  {t : Cluster × ρ}
include steady

/-- What is collected from sources is collected from them in another order as well. -/
theorem exists_collected (plain : Untransformed (refs.map (·.1)))
    (shuffled : Reorders ShuffledWith refs refs')
    (h : (E.projector.collect space binding kept 0 plan refs).exec (c, r) = (.ok plan', t)) :
    ∃ plan'' t', (E.projector.collect space binding kept 0 plan refs').exec (c', r') =
      (.ok plan'', t') ∧ plan'.Permuted plan'' := by
  obtain ⟨rfl, found, hread, hgather⟩ := (collect_eq_ok E _ _ _).1 h
  have hrequests : ∀ s ∈ requests found, s.projection.transform = none := by
    intro s hs
    obtain ⟨ref, href, hs⟩ := List.mem_flatMap.1 hs
    obtain ⟨p, hp, rfl⟩ := List.mem_map.1 hs
    refine plain ref.1 ?_ p hp
    rw [← SourceReader.map_fst_readAll hread]
    exact List.mem_map_of_mem href
  have hread' : ∀ {ref ref' : SourceRef × Access} {s : SourceRef × Source}, ShuffledWith ref ref' →
      (s.1 = ref.1 ∧ ((E.reader.read space ref.1.name ref.2).exec r).1 = .ok s.2) →
        ∃ s', (s'.1 = ref'.1 ∧ ((E.reader.read space ref'.1.name ref'.2).exec r).1 = .ok s'.2) ∧
          ShuffledWith s s' := by
    rintro ref ref' ⟨_, source⟩ ⟨href, haccess⟩ ⟨rfl, hsource⟩
    refine ⟨(ref'.1, source), ⟨rfl, ?_⟩, href, rfl⟩
    rw [haccess, href.rest]
    exact hsource
  obtain ⟨found', hfound', hshuffled⟩ := shuffled.map hread' ((steady.readAll r r).1 ⟨_, hread⟩)
  obtain ⟨u, hu⟩ := (steady.readAll r r').2 hfound'
  rw [Plan.gather_eq_realizeRequests] at hgather
  obtain ⟨plan'', hplan'', permuted⟩ :=
    Plan.exists_permuted hrequests (requests_perm hshuffled) hgather
  rw [← Plan.gather_eq_realizeRequests] at hplan''
  exact ⟨plan'', _, (collect_eq_ok E _ _ _).2 ⟨rfl, found', hu, hplan''⟩, permuted⟩

/-- Collecting from sources in another order is the same run up to the order of the plan. -/
theorem sameRun_collect (plain : Untransformed (refs.map (·.1)))
    (shuffled : Reorders ShuffledWith refs refs') :
    SameRun (fun s s' => s'.1 = s.1) Plan.Permuted
      ((E.projector.collect space binding kept 0 plan refs).exec (c, r))
      ((E.projector.collect space binding kept 0 plan refs').exec (c, r')) := by
  have hback : Reorders ShuffledWith refs' refs := shuffled.symm fun ⟨h, he⟩ => ⟨h.symm, he.symm⟩
  have plain' : Untransformed (refs'.map (·.1)) := plain.shuffled (reorders_map_fst shuffled)
  refine ⟨agree_of_imp (fun plan' h => ?_) fun plan' h => ?_, ?_⟩
  · obtain ⟨plan'', t', h', permuted⟩ := exists_collected steady plain shuffled (Prod.ext h rfl)
    exact ⟨plan'', congrArg Prod.fst h', permuted⟩
  · obtain ⟨plan'', t', h', -⟩ := exists_collected steady plain' hback (Prod.ext h rfl)
    exact ⟨plan'', congrArg Prod.fst h'⟩
  · rw [exec_collect_cluster, exec_collect_cluster]

end Projecting

/-- Bindings in another order are checked alike. -/
theorem agree_check {b b' : Binding} (h : b.Reordered b') (catalog : Catalog) :
    Agree (fun refs refs' => refs.map (·.1) = b.sources ∧ Reorders ShuffledWith refs refs')
      (check catalog b) (check catalog b') := by
  have step : ∀ {s s' : SourceRef} {ref : SourceRef × Access}, s.Shuffled s' →
      (ref.1 = s ∧ checkSource catalog s = .ok ref.2) →
        ∃ ref', (ref'.1 = s' ∧ checkSource catalog s' = .ok ref'.2) ∧ ShuffledWith ref ref' := by
    rintro s s' ref hs ⟨rfl, hchecked⟩
    exact ⟨(s', ref.2), ⟨rfl, checkSource_shuffled hs hchecked⟩, hs, rfl⟩
  refine agree_of_imp (fun refs hrefs => ?_) fun refs' hrefs' => ?_
  · obtain ⟨refs', hrefs', reorders⟩ := h.sources.map step (check_eq_ok.1 hrefs)
    exact ⟨refs', check_eq_ok.2 hrefs', map_fst_check hrefs, reorders⟩
  · obtain ⟨refs, hrefs, -⟩ := h.symm.sources.map step (check_eq_ok.1 hrefs')
    exact ⟨refs, check_eq_ok.2 hrefs⟩

theorem expand_of_preset_eq_none {b : Binding} (direct : b.preset = none) (mountBase : String) :
    expand b mountBase = .ok ⟨b, []⟩ := by
  unfold expand
  rw [direct]

/-- **The order of sources and projections does not matter.** Let a binding have neither a preset
nor transforms, and list its sources, and the projections of each, in another order. With a reader
whose answers are fixed it is applied just if it was before; then the pod is the same up to order,
with the same text. Applied or refused, it leaves the same secrets. -/
theorem Projector.project_reordered {E : Equipment ρ} (steady : E.reader.Steady) {b b' : Binding}
    (direct : b.preset = none) (plain : Untransformed b.sources) (reordered : b.Reordered b')
    (i : Instance) (pod : PodSpec) (c : Cluster) (r : ρ) :
    let x := (E.projector.project i b pod).exec (c, r)
    let y := (E.projector.project i b' pod).exec (c, r)
    Agree (fun made made' => made.1.Permuted made'.1 ∧ made'.2 = made.2) x.1 y.1 ∧
      y.2.1.secrets = x.2.1.secrets := by
  have hname : b'.name = b.name := by rw [reordered.rest]
  have hconf : b'.conf = b.conf := by rw [reordered.rest]
  have direct' : b'.preset = none := by
    rw [reordered.rest]
    exact direct
  suffices h : SameRun (fun s s' : Cluster × ρ => s'.1.secrets = s.1.secrets)
      (fun made made' => made.1.Permuted made'.1 ∧ made'.2 = made.2)
      ((E.projector.project i b pod).exec (c, r)) ((E.projector.project i b' pod).exec (c, r)) from
    ⟨h.result, h.state⟩
  have secrets : ∀ {s s' : Cluster × ρ}, s'.1 = s.1 → s'.1.secrets = s.1.secrets :=
    fun h => congrArg (·.secrets) h
  have same : ∀ {s s' : Cluster × ρ}, s = s' → s'.1.secrets = s.1.secrets := fun h => by rw [h]
  unfold Projector.project
  rw [hname, E.projector_mountBase, E.projector_catalog, expand_of_preset_eq_none direct,
    expand_of_preset_eq_none direct']
  refine SameRun.bind_of_imp (S := Eq) (R := fun e e' => e = ⟨b, []⟩ ∧ e' = ⟨b', []⟩)
    (.attributed (.ok ⟨rfl, rfl⟩) b.name rfl) same ?_
  rintro _ _ s _ ⟨rfl, rfl⟩ rfl
  refine SameRun.bind_of_imp (S := Eq) (.attributed (agree_check reordered E.catalog) b.name rfl)
    same ?_
  rintro refs refs' s _ ⟨hrefs, shuffled⟩ rfl
  refine SameRun.bind_of_imp (S := Eq) (.of_alike ⟨rfl, rfl⟩) same ?_
  rintro uid _ s _ rfl rfl
  refine SameRun.bind_of_imp (S := Eq) (.of_alike ⟨rfl, rfl⟩) same ?_
  rintro kept _ ⟨c, r⟩ _ rfl rfl
  refine SameRun.bind_of_imp (sameRun_collect steady (hrefs ▸ plain) shuffled) secrets ?_
  rintro plan plan' s s' permuted hs
  have happly : Agree PodSpec.Permuted (plan.apply b.name E.settings.mountBase [] pod)
      (plan'.apply b.name E.settings.mountBase [] pod) :=
    agree_of_imp (fun _ h => Plan.apply_permuted permuted h) fun _ h =>
      (Plan.apply_permuted permuted.symm h).imp fun _ h => h.1
  refine SameRun.bind_of_imp (.attributed happly b.name hs) secrets ?_
  rintro made made' ⟨c, r⟩ ⟨c', r'⟩ hmade hc
  obtain rfl : c' = c := hc
  rw [permuted.content]
  have alike : (E.projector.settle i b.name uid plan.content).Alike
      (MatchedLeft Eq (fun _ _ => True) (spaceOf i) (secondaryName i.name b.name))
      (c', r) (c', r') :=
    alike_settle E i b.name uid plan.content (.eq _ _) ⟨rfl, fun _ => rfl⟩ trivial
  refine SameRun.bind_of_imp (.of_alike alike) (fun m => m.1.tables.symm) ?_
  rintro _ _ t t' - m
  refine ⟨.ok ⟨hmade, ?_⟩, m.1.tables.symm⟩
  rw [hconf]

/-- A binding that takes the password of two secrets. -/
def twoPasswords : Binding where
  name := "db"
  sources := [
    { version := "v1", kind := "Secret", name := "creds", projections := [
        { source := some "password", mount := some "password" },
        { source := some "password", env := some "PASSWORD" }] },
    { version := "v1", kind := "Secret", name := "spare", projections := [
        { source := some "password", mount := some "spare.txt" }] }]

/-- The same binding, listed the other way round. -/
def twoPasswordsReversed : Binding :=
  { twoPasswords with
    sources := (twoPasswords.sources.map fun s =>
      { s with projections := s.projections.reverse }).reverse }

theorem Projector.project_reordered_twoPasswords :
    let E := Equipment.onePassword
    let pod : PodSpec := { containers := [{ name := "nuxeo" }] }
    let x := (E.projector.project passwordMounted twoPasswords pod).exec ({}, ())
    let y := (E.projector.project passwordMounted twoPasswordsReversed pod).exec ({}, ())
    x.1.isOk = true ∧ Agree (fun made made' => made.1.Permuted made'.1 ∧ made'.2 = made.2) x.1 y.1 ∧
      y.2.1.secrets = x.2.1.secrets := by
  have steady : Equipment.onePassword.reader.Steady := by
    rintro space name ((_ | _) | kind) ⟨⟩ ⟨⟩ <;> rfl
  have plain : Untransformed twoPasswords.sources := by
    simp [Untransformed, twoPasswords]
  have reordered : twoPasswords.Reordered twoPasswordsReversed := by
    refine ⟨rfl, _, ?_, (List.reverse_perm _).symm⟩
    exact List.forall₂_map_right_iff.2 (forall₂_refl (fun s => ⟨rfl, (List.reverse_perm _).symm⟩) _)
  refine ⟨by decide +kernel, ?_⟩
  exact project_reordered steady rfl plain reordered passwordMounted _ {} ()

end Binding

end ServiceBinding
