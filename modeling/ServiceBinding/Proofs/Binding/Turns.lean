import ServiceBinding.Proofs.Binding.Applying
import ServiceBinding.Proofs.Ownership

/-!
A sweep seen from the turn of one of its bindings (`run_projectAll_around`). What the bindings
before it have left on the pod is not in its way (`Kept`), and its secret is worked on in its own
turn only: neither the other bindings nor the cleaning up touch it.
-/
namespace ServiceBinding.Binding
open Cluster Convergence Crypto Object Projector Workload
variable {ρ : Type}

/-! ### Pods -/

section Pods
variable {faulty : Prop} {E : Equipment ρ} {i : Instance} {b : Binding} {pod pod' : PodSpec}
  {c : Container} {before after : Table Secret} {r r' : ρ}

/-- What a pod keeps while some bindings are projected: volumes and mounts but theirs, and all
variables but the list of templates. -/
structure Kept (bs : List Binding) (pod : PodSpec) (c : Container) (pod' : PodSpec)
    (c' : Container) : Prop where
  elsewhere : ∀ name, name ∉ bs.map (volumeName ·.name) →
    volume? pod' name = volume? pod name ∧ mount? c' name = mount? c name
  kept : ∀ name var, name ≠ templatesVariable → envVar? c name = some var →
    envVar? c' name = some var

/-- A binding that is not one of those is as new to the pod as it was. -/
theorem Kept.fresh {bs : List Binding} {c' : Container} (h : Kept bs pod c pod' c')
    (apart : b.name ∉ bs.map (·.name)) (fresh : Fresh b.name pod c) : Fresh b.name pod' c' := by
  obtain ⟨hvolume, hmount⟩ := h.elsewhere _ (volumeName_notMem apart)
  exact ⟨hvolume.trans fresh.volume, hmount.trans fresh.mount⟩

theorem Applied.keeps {plan : Plan} {mountBase : String} {c' : Container}
    (h : Applied plan b.name mountBase pod c pod' c') : Kept [b] pod c pod' c' where
  elsewhere name hn := h.elsewhere name fun he => hn (List.mem_singleton.2 he)
  kept := h.kept

theorem Kept.trans {bs : List Binding} {pod₁ pod₂ : PodSpec} {c₁ c₂ : Container}
    (h : Kept [b] pod c pod₁ c₁) (h' : Kept bs pod₁ c₁ pod₂ c₂) :
    Kept (b :: bs) pod c pod₂ c₂ where
  elsewhere name hn := by
    rw [List.map_cons, List.mem_cons, not_or] at hn
    obtain ⟨hvolume, hmount⟩ := h.elsewhere name (mt List.mem_singleton.1 hn.1)
    obtain ⟨hvolume', hmount'⟩ := h'.elsewhere name hn.2
    exact ⟨hvolume'.trans hvolume, hmount'.trans hmount⟩
  kept name var hn hv := h'.kept name var hn (h.kept name var hn hv)

/-- Projecting a binding that is new to a pod leaves the pod fit for others, which stay new to
it. -/
theorem Projected.fitted {p : Progress} {x : Result (PodSpec × String)} {verbs : List Verb}
    (fitted : Fitted p.pod c) (fresh : Fresh b.name p.pod c)
    (h : Projected faulty E i b p.pod before r x verbs after r') :
    ∃ c', Fitted (p.after b x).pod c' ∧ Kept [b] p.pod c (p.after b x).pod c' := by
  cases x with
  | error e => exact ⟨c, fitted, fun _ _ => ⟨rfl, rfl⟩, fun _ _ _ h => h⟩
  | ok y =>
    obtain ⟨pod₁, conf⟩ := y
    obtain ⟨uid, d, drafted, rfl, _⟩ := h.drafted
    obtain ⟨c₁, applied⟩ := Plan.applied_of_apply fitted fresh drafted.applied
    exact ⟨c₁, applied.fitted, applied.keeps⟩

theorem Kept.fresh_rest {rest : List Binding} {c' : Container} (h : Kept [b] pod c pod' c')
    (apart : b.name ∉ rest.map (·.name)) (fresh : ∀ b' ∈ rest, Fresh b'.name pod c) :
    ∀ b' ∈ rest, Fresh b'.name pod' c' := fun b' hb' =>
  h.fresh (fun he => apart (List.mem_map.2 ⟨b', hb', List.mem_singleton.1 he⟩)) (fresh b' hb')

theorem ProjectedEach.fitted {p p' : Progress} {bs : List Binding} {log : List Call}
    (nodup : (bs.map (·.name)).Nodup) (fitted : Fitted p.pod c)
    (fresh : ∀ b ∈ bs, Fresh b.name p.pod c)
    (h : ProjectedEach faulty E i p before r bs p' log after r') :
    ∃ c', Fitted p'.pod c' ∧ Kept bs p.pod c p'.pod c' := by
  induction h generalizing c with
  | nil p => exact ⟨c, fitted, fun _ _ => ⟨rfl, rfl⟩, fun _ _ _ h => h⟩
  | @cons p p' t t₁ t' r r₁ r' b rest x verbs log first others ih =>
    rw [List.map_cons, List.nodup_cons] at nodup
    rw [List.forall_mem_cons] at fresh
    obtain ⟨c₁, fitted₁, kept₁⟩ := first.fitted fitted fresh.1
    obtain ⟨c', fitted', kept'⟩ := ih nodup.2 fitted₁ (kept₁.fresh_rest nodup.1 fresh.2)
    exact ⟨c', fitted', kept₁.trans kept'⟩

end Pods

/-! ### Sweeps -/

section Sweeps
variable {faulty : Prop} {E : Equipment ρ} {i : Instance} {b : Binding}
  {earlier later : List Binding} {p p' : Progress} {before t t' after : Table Secret}
  {log log' : List Call} {r r₁ r₂ r₃ : ρ} {x : Result (PodSpec × String)}

theorem apart_of_nodup (nodup : ((earlier ++ b :: later).map (·.name)).Nodup) :
    b.name ∉ earlier.map (·.name) ∧ b.name ∉ later.map (·.name) := by
  rw [List.map_append, List.map_cons, List.nodup_append, List.nodup_cons] at nodup
  exact ⟨fun h => nodup.2.2 _ h _ List.mem_cons_self rfl, nodup.2.1.1⟩

/-- A binding is reported as applied just if its own turn has gone through. -/
theorem mem_applied_iff (nodup : ((earlier ++ b :: later).map (·.name)).Nodup) {pod : PodSpec}
    (each : ProjectedEach faulty E i { pod := pod } before r earlier p log t r₁)
    (each' : ProjectedEach faulty E i (p.after b x) t' r₂ later p' log' after r₃) :
    b.name ∈ p'.applied ↔ ∃ y, x = .ok y := by
  obtain ⟨hearlier, hlater⟩ := apart_of_nodup nodup
  constructor
  · intro applied
    cases x with
    | ok y => exact ⟨y, rfl⟩
    | error e =>
      rcases each'.applied _ applied with h | h
      · rcases each.applied _ h with h | h
        · cases h
        · exact absurd h hearlier
      · exact absurd h hlater
  · rintro ⟨y, rfl⟩
    exact each'.applied_mono (List.mem_append_right _ (List.mem_singleton_self _))

/-- The secret of a binding is not worked on while others are projected. -/
theorem ProjectedEach.secret_eq {bs : List Binding} {uid : String}
    (identified : Workload.ownerUid i = .ok uid) (nodup : (bs.map (·.name)).Nodup)
    (apart : b.name ∉ bs.map (·.name))
    (each : ProjectedEach faulty E i p before r bs p' log after r₁) :
    after.get? (spaceOf i) (secondaryName i.name b.name) =
      before.get? (spaceOf i) (secondaryName i.name b.name) :=
  (each.upheld identified nodup).elsewhere _ _ fun h => not_isSecondary apart h.2

end Sweeps

/-- A sweep around the turn of one of its bindings: the bindings before it, the binding itself, the
bindings after it, and the cleaning up. -/
theorem run_projectAll_around (E : Equipment ρ) (i : Instance) (pod : PodSpec)
    {earlier later : List Binding} {b : Binding} (split : i.spec.bindings = earlier ++ b :: later)
    (c : Cluster) (r : ρ) :
    ∃ p log t turn x verbs t' r' p' log' t'' last y log'' c',
      (E.projector.projectEach i { pod := pod } earlier).run (c, r) = (p, turn) ∧
      ProjectedEach True E i { pod := pod } c.secrets r earlier p log t turn.2 ∧
      Projected True E i b p.pod t turn.2 x verbs t' r' ∧
      ProjectedEach True E i (p.after b x) t' r' later p' log' t'' last ∧
      Pruned True i t'' y log'' c'.secrets ∧
      (E.projector.projectAll i pod).run (c, r) = ((p'.pod, reportOf p' y), (c', last)) := by
  have faulty : ∀ c : Cluster, c.faults ≠ [] → True := fun _ _ => trivial
  obtain ⟨p, log, t, c₁, r₁, hp, called₁, each⟩ :=
    run_projectEach E i earlier { pod := pod } (faulty c) r
  obtain rfl : c₁.secrets = t := called₁.table
  obtain ⟨x, verbs, t', c₂, r', hx, called₂, turn⟩ := exec_project E i b p.pod (faulty c₁) r₁
  obtain rfl : c₂.secrets = t' := called₂.table
  obtain ⟨p', log', t'', c₃, last, hp', called₃, each'⟩ :=
    run_projectEach E i later (p.after b x) (faulty c₂) r'
  obtain rfl : c₃.secrets = t'' := called₃.table
  obtain ⟨y, log'', t₄, c', hy, called₄, pruned⟩ := exec_prune E i (faulty c₃) last
  obtain rfl : c'.secrets = t₄ := called₄.table
  refine ⟨p, log, _, (c₁, r₁), x, verbs, _, r', p', log', _, last, y, log'', c', hp, each, turn,
    each', pruned, ?_⟩
  have hall : (E.projector.projectEach i { pod := pod } i.spec.bindings).run (c, r) =
      (p', (c₃, last)) := by
    rw [split, run_projectEach_append, hp]
    show (E.projector.projectEach i (p.after b ((E.projector.project i b p.pod).exec (c₁, r₁)).1)
      later).run ((E.projector.project i b p.pod).exec (c₁, r₁)).2 = _
    rw [hx]
    exact hp'
  show (let each := (E.projector.projectEach i { pod := pod } i.spec.bindings).run (c, r)
    let gone := (E.projector.prune i).exec each.2
    ((each.1.pod, reportOf each.1 gone.1), gone.2)) = _
  rw [hall]
  dsimp only
  rw [hy]

end ServiceBinding.Binding
