import ServiceBinding.Proofs.Binding.Projecting

/-!
What projecting all bindings of an instance, and cleaning up after those no longer declared, can
come to: the projections one after the other (`ProjectedEach`), then the deletions one after the
other (`Pruned`). A sweep works on secrets only.
-/
namespace ServiceBinding.Binding
open Cluster Convergence Crypto Object Projector
variable {ρ : Type}

/-! ### Projections -/

/-- The ways in which projecting some bindings can end: progress, calls, table and reader, by the
progress, table and reader before. -/
inductive ProjectedEach (faulty : Prop) (E : Equipment ρ) (i : Instance) :
    Progress → Table Secret → ρ → List Binding → Progress → List Call → Table Secret → ρ → Prop
  | nil (p : Progress) (t : Table Secret) (r : ρ) : ProjectedEach faulty E i p t r [] p [] t r
  | cons {p p' : Progress} {t t₁ t' : Table Secret} {r r₁ r' : ρ} {b : Binding}
      {rest : List Binding} {x : Result (PodSpec × String)} {verbs : List Verb} {log : List Call}
      (first : Projected faulty E i b p.pod t r x verbs t₁ r₁)
      (others : ProjectedEach faulty E i (p.after b x) t₁ r₁ rest p' log t' r') :
    ProjectedEach faulty E i p t r (b :: rest) p'
      (log ++ verbs.map (callOn Secret (spaceOf i) (secondaryName i.name b.name))) t' r'

theorem run_projectEach (E : Equipment ρ) (i : Instance) (bs : List Binding) (p : Progress)
    {c : Cluster} {faulty : Prop} (hf : c.faults ≠ [] → faulty) (r : ρ) :
    ∃ p' log t after r',
      (E.projector.projectEach i p bs).run (c, r) = (p', (after, r')) ∧ Called c log t after ∧
        ProjectedEach faulty E i p c.secrets r bs p' log t r' := by
  induction bs generalizing p c r with
  | nil => exact ⟨p, [], _, c, r, rfl, .refl c, .nil p _ r⟩
  | cons b rest ih =>
    obtain ⟨x, verbs, t₁, c₁, r₁, hx, hcalled, hb⟩ := exec_project E i b p.pod hf r
    obtain rfl : c₁.secrets = t₁ := hcalled.table
    obtain ⟨p', log, t', after, r', hp, hcalled', hrest⟩ :=
      ih (p.after b x) (fun h => hf fun quiet => h (hcalled.quiet quiet)) r₁
    refine ⟨p', _, t', after, r', ?_, hcalled.trans hcalled', .cons hb hrest⟩
    rw [← hp, projectEach]
    show ((E.projector.projectEach i (p.after b ((E.projector.project i b p.pod).exec (c, r)).1)
      rest).run ((E.projector.project i b p.pod).exec (c, r)).2) = _
    rw [hx]

theorem run_projectEach_cons (E : Equipment ρ) (i : Instance) (p : Progress) (b : Binding)
    (rest : List Binding) (s : Cluster × ρ) :
    (E.projector.projectEach i p (b :: rest)).run s =
      (E.projector.projectEach i (p.after b ((E.projector.project i b p.pod).exec s).1) rest).run
        ((E.projector.project i b p.pod).exec s).2 := rfl

theorem run_projectEach_append (E : Equipment ρ) (i : Instance) (l l' : List Binding)
    (p : Progress) (s : Cluster × ρ) :
    (E.projector.projectEach i p (l ++ l')).run s =
      (E.projector.projectEach i ((E.projector.projectEach i p l).run s).1 l').run
        ((E.projector.projectEach i p l).run s).2 := by
  induction l generalizing p s with
  | nil => rfl
  | cons b rest ih => exact ih _ _

/-- Only bindings that were projected are reported as applied. -/
theorem ProjectedEach.applied {faulty : Prop} {E : Equipment ρ} {i : Instance}
    {before after : Table Secret} {r r' : ρ} {p p' : Progress} {bs : List Binding}
    {log : List Call} (h : ProjectedEach faulty E i p before r bs p' log after r') :
    ∀ name ∈ p'.applied, name ∈ p.applied ∨ name ∈ bs.map (·.name) := by
  induction h with
  | nil => exact fun _ h => .inl h
  | @cons p p' _ _ _ _ _ _ b rest x _ _ _ others ih =>
    intro name hn
    rcases ih name hn with hn | hn
    · cases x with
      | error => exact .inl hn
      | ok y =>
        rcases List.mem_append.1 hn with hn | hn
        · exact .inl hn
        · rw [List.mem_singleton.1 hn]
          exact .inr List.mem_cons_self
    · exact .inr (List.mem_cons_of_mem _ hn)

/-- Bindings that have been applied stay reported as applied. -/
theorem ProjectedEach.applied_mono {faulty : Prop} {E : Equipment ρ} {i : Instance}
    {before after : Table Secret} {r r' : ρ} {p p' : Progress} {bs : List Binding}
    {log : List Call} (h : ProjectedEach faulty E i p before r bs p' log after r') :
    p.applied ⊆ p'.applied := by
  induction h with
  | nil => exact List.Subset.refl _
  | @cons p _ _ _ _ _ _ _ _ _ x _ _ _ _ ih =>
    refine List.Subset.trans ?_ ih
    cases x with
    | error => exact List.Subset.refl _
    | ok => exact List.subset_append_left _ _

/-! ### Deletions -/

/-- The ways in which deleting some secrets can end. -/
inductive Deleted (faulty : Prop) (space : String) : Table Secret → List Secret →
    Result (List String) → List Call → Table Secret → Prop
  | nil (t : Table Secret) : Deleted faulty space t [] (.ok []) [] t
  | struck (h : faulty) (e : Error) (t : Table Secret) (s : Secret) (rest : List Secret) :
    Deleted faulty space t (s :: rest) (.error e)
      [callOn Secret space s.metadata.displayName .delete] t
  | cons {t t' : Table Secret} {s : Secret} {rest : List Secret} {x : Result (List String)}
      {log : List Call}
      (others : Deleted faulty space (t.delete space s.metadata.displayName) rest x log t') :
    Deleted faulty space t (s :: rest) (x.map (s.metadata.displayName :: ·))
      (log ++ [callOn Secret space s.metadata.displayName .delete]) t'

theorem exec_deleteAll (E : Equipment ρ) (space : String) (l : List Secret) {c : Cluster}
    {faulty : Prop} (hf : c.faults ≠ [] → faulty) (r : ρ) :
    ∃ x log t after, (E.projector.deleteAll space l).exec (c, r) = (x, (after, r)) ∧
      Called c log t after ∧ Deleted faulty space c.secrets l x log t := by
  induction l generalizing c with
  | nil => exact ⟨_, [], _, c, rfl, .refl c, .nil _⟩
  | cons s rest ih =>
    have hdel := (Called.refl (α := Secret) c).noted
      (callOn Secret space s.metadata.displayName .delete)
    rw [deleteAll, Action.exec_bind, E.projector_secrets, exec_delete]
    cases hs : c.struck? (callOn Secret space s.metadata.displayName .delete) with
    | some e =>
      exact ⟨_, _, _, _, rfl, hdel, .struck (hf (faults_of_struck hs)) e _ s rest⟩
    | none =>
      have hgone := hdel.written (c.secrets.delete space s.metadata.displayName)
      obtain ⟨x, log, t, after, hx, hcalled, h⟩ :=
        ih fun h => hf fun quiet => h (hgone.quiet quiet)
      refine ⟨_, _, t, after, ?_, hgone.trans hcalled, .cons h⟩
      dsimp only [table_secret]
      rw [Action.exec_bind, hx]
      cases x <;> rfl

/-- The call that lists the secondary secrets of an instance. -/
def listing (i : Instance) : Call :=
  callOn Secret (spaceOf i) (secondarySelector i.name) .list

/-- The leftovers in a table: the owner's secondary secrets of bindings that are not declared. -/
def leftovers (i : Instance) (uid : String) (t : Table Secret) : List Secret :=
  (t.select (spaceOf i) (secondarySelector i.name)).filter (isLeftover i uid)

/-- A leftover is one wherever it is found again. -/
theorem leftover_of_get? {i : Instance} {uid : String} {t t' : Table Secret} {s : Secret}
    (h : s ∈ leftovers i uid t)
    (there : t'.get? (spaceOf i) s.metadata.displayName = some s) : s ∈ leftovers i uid t' := by
  obtain ⟨hsel, hleft⟩ := List.mem_filter.1 h
  exact List.mem_filter.2 ⟨Table.mem_select.2 ⟨⟨_, there⟩, (Table.mem_select.1 hsel).2⟩, hleft⟩

/-- The ways in which cleaning up can end. -/
inductive Pruned (faulty : Prop) (i : Instance) (before : Table Secret) :
    Result (List String) → List Call → Table Secret → Prop
  | unidentified {e : Error} (h : Workload.ownerUid i = .error e) :
    Pruned faulty i before (.error e) [] before
  | struck (h : faulty) (e : Error) : Pruned faulty i before (.error e) [listing i] before
  | deleted {uid : String} (identified : Workload.ownerUid i = .ok uid)
      {x : Result (List String)} {log : List Call} {t : Table Secret}
      (h : Deleted faulty (spaceOf i) before (leftovers i uid before) x log t) :
    Pruned faulty i before x (log ++ [listing i]) t

theorem exec_prune (E : Equipment ρ) (i : Instance) {c : Cluster} {faulty : Prop}
    (hf : c.faults ≠ [] → faulty) (r : ρ) :
    ∃ x log t after, (E.projector.prune i).exec (c, r) = (x, (after, r)) ∧
      Called c log t after ∧ Pruned faulty i c.secrets x log t := by
  have hlist := (Called.refl (α := Secret) c).noted (listing i)
  unfold prune
  rw [Action.exec_bind, Action.exec_lift]
  cases huid : Workload.ownerUid i with
  | error e => exact ⟨_, [], _, c, rfl, .refl c, .unidentified huid⟩
  | ok uid =>
    dsimp only
    rw [Action.exec_bind, E.projector_secrets, exec_list]
    cases hs : c.struck? (callOn Secret (spaceOf i) (secondarySelector i.name) .list) with
    | some e => exact ⟨_, _, _, _, rfl, hlist, .struck (hf (faults_of_struck hs)) e⟩
    | none =>
      obtain ⟨x, log, t, after, hx, hcalled, h⟩ := exec_deleteAll E (spaceOf i)
        (leftovers i uid c.secrets) (fun h => hf (faults_of_noted h)) r
      exact ⟨x, _, t, after, hx, hlist.trans hcalled, .deleted huid h⟩

/-! ### Sweeps -/

/-- The report on some progress and on the cleaning up after it. -/
def reportOf (p : Progress) (pruned : Result (List String)) : Report :=
  { applied := p.applied
    failed := p.failed ++ (match pruned with
      | .ok _ => []
      | .error e => [(cleanupName, e)])
    pruned := pruned.toOption.getD []
    conf := joinLines p.confs }

/-- What a sweep over the bindings of an instance can come to: progress, outcome of the cleaning
up, calls, table and reader. -/
structure Swept (faulty : Prop) (E : Equipment ρ) (i : Instance) (pod : PodSpec)
    (before : Table Secret) (r : ρ) (p : Progress) (pruned : Result (List String))
    (log : List Call) (t : Table Secret) (r' : ρ) : Prop where
  /-- The table between the projections and the cleaning up, with the calls of each. -/
  split : ∃ mid each gone, log = gone ++ each ∧
    ProjectedEach faulty E i { pod := pod } before r i.spec.bindings p each mid r' ∧
      Pruned faulty i mid pruned gone t

theorem run_projectAll (E : Equipment ρ) (i : Instance) (pod : PodSpec) {c : Cluster}
    {faulty : Prop} (hf : c.faults ≠ [] → faulty) (r : ρ) :
    ∃ p pruned log t after r',
      (E.projector.projectAll i pod).run (c, r) = ((p.pod, reportOf p pruned), (after, r')) ∧
        Called c log t after ∧ Swept faulty E i pod c.secrets r p pruned log t r' := by
  obtain ⟨p, each, mid, c₁, r', hp, hcalled, heach⟩ :=
    run_projectEach E i i.spec.bindings { pod := pod } hf r
  obtain rfl : c₁.secrets = mid := hcalled.table
  obtain ⟨x, gone, t, after, hx, hcalled', hgone⟩ :=
    exec_prune E i (fun h => hf fun quiet => h (hcalled.quiet quiet)) r'
  refine ⟨p, x, _, t, after, r', ?_, hcalled.trans hcalled', ⟨_, each, gone, rfl, heach, hgone⟩⟩
  show (let each := (E.projector.projectEach i { pod := pod } i.spec.bindings).run (c, r)
    let gone := (E.projector.prune i).exec each.2
    ((each.1.pod, reportOf each.1 gone.1), gone.2)) = _
  rw [hp]
  dsimp only
  rw [hx]

/-! ### All objects -/

section Each
variable {P : String → String → Secret → Prop} {faulty : Prop} {E : Equipment ρ} {i : Instance}
  {before after : Table Secret} {log : List Call} {r r' : ρ}

/-- Whether the secondary secrets made for an instance keep a property of all secrets. -/
def KeptBySecondaries (i : Instance) (P : String → String → Secret → Prop) : Prop :=
  ∀ binding content wanted, secondarySecret i binding content = .ok wanted →
    Keeps compareSecret (spaceOf i) (secondaryName i.name binding) wanted P

theorem ProjectedEach.each {p p' : Progress} {bs : List Binding}
    (h : ProjectedEach faulty E i p before r bs p' log after r') (keeps : KeptBySecondaries i P)
    (hb : before.Each P) : after.Each P := by
  induction h with
  | nil => exact hb
  | cons first _ ih => exact ih (first.each (keeps _) hb)

theorem Deleted.each {space : String} {l : List Secret} {x : Result (List String)}
    (h : Deleted faulty space before l x log after) (hb : before.Each P) : after.Each P := by
  induction h with
  | nil | struck => exact hb
  | cons _ ih => exact ih (hb.delete _ _)

theorem Pruned.each {x : Result (List String)} (h : Pruned faulty i before x log after)
    (hb : before.Each P) : after.Each P := by
  cases h with
  | unidentified | struck => exact hb
  | deleted _ h => exact h.each hb

theorem Swept.each {pod : PodSpec} {p : Progress} {pruned : Result (List String)}
    (h : Swept faulty E i pod before r p pruned log after r') (keeps : KeptBySecondaries i P)
    (hb : before.Each P) : after.Each P := by
  obtain ⟨mid, each, gone, rfl, heach, hgone⟩ := h.split
  exact hgone.each (heach.each keeps hb)

/-- Secrets stored under the name in their metadata stay so. -/
theorem keptBySecondaries_named (i : Instance) :
    KeptBySecondaries i fun _ name s => (Resource.metadata s).name = some name :=
  fun _ _ _ made => keeps_named applies_compareSecret (secondarySecret_name made)

theorem ProjectedEach.named {p p' : Progress} {bs : List Binding}
    (h : ProjectedEach faulty E i p before r bs p' log after r') (hb : before.Named) :
    after.Named :=
  h.each (keptBySecondaries_named i) hb

theorem Swept.named {pod : PodSpec} {p : Progress} {pruned : Result (List String)}
    (h : Swept faulty E i pod before r p pruned log after r') (hb : before.Named) :
    after.Named :=
  h.each (keptBySecondaries_named i) hb

end Each

end ServiceBinding.Binding
