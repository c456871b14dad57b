import ServiceBinding.Proofs.Binding.Planning
import ServiceBinding.Proofs.Convergence.Attempts
import ServiceBinding.Proofs.Workload.Made

/-!
What projecting one binding can come to on the in-memory cluster. Everything that may be refused
is refused before the first write: until then the binding is only a draft (`Drafted`). Then its
secondary secret is settled (`Settled`), by one write at most. The cases of `Projected` say all
that a projection can do: which calls it makes, which result it has, which table it leaves.
-/
namespace ServiceBinding.Binding
open Cluster Convergence Crypto Object
variable {ρ : Type}

@[simp] theorem table_secret (c : Cluster) : (Stored.table c : Table Secret) = c.secrets := rfl

/-! ### What is kept -/

/-- The content that a secret keeps for its owner. -/
def keptFrom (uid : String) : Option Secret → Dict Bytes
  | some found => if found.metadata.isOwnedBy uid then found.data.getD {} else {}
  | none => {}

theorem exec_kept (E : Equipment ρ) (space name uid : String) (c : Cluster) (r : ρ) :
    (E.projector.kept space name uid).exec (c, r) =
      (match c.struck? (callOn Secret space name .get) with
        | some e => .error e
        | none => .ok (keptFrom uid (c.secrets.get? space name)),
        (c.noted (callOn Secret space name .get), r)) := by
  unfold Projector.kept
  rw [Action.exec_bind, E.projector_secrets, exec_get, table_secret]
  cases c.struck? (callOn Secret space name .get) with
  | some e => rfl
  | none =>
    dsimp only
    cases c.secrets.get? space name <;> rfl

/-! ### Settling -/

/-- The ways in which settling a secondary secret can end. -/
inductive Settled (faulty : Prop) (i : Instance) (binding uid : String) (content : Dict Bytes)
    (before : Table Secret) : Result Unit → List Verb → Table Secret → Prop
  | removed (empty : content.isEmpty = true) {x : Result Removal} {verbs : List Verb}
      {t : Table Secret}
      (h : Removed faulty (spaceOf i) (secondaryName i.name binding) uid before x verbs t) :
    Settled faulty i binding uid content before (x.map fun _ => ()) verbs t
  | unmade (filled : content.isEmpty = false) {e : Error}
      (h : secondarySecret i binding content = .error e) :
    Settled faulty i binding uid content before (.error e) [] before
  | ensured (filled : content.isEmpty = false) {wanted : Secret}
      (made : secondarySecret i binding content = .ok wanted) {x : Result Outcome}
      {verbs : List Verb} {t : Table Secret}
      (h : Ensured faulty compareSecret (spaceOf i) (secondaryName i.name binding) wanted before
        x verbs t) :
    Settled faulty i binding uid content before (x.map fun _ => ()) verbs t

theorem exec_settle (E : Equipment ρ) (i : Instance) (binding uid : String)
    (content : Dict Bytes) {c : Cluster} {faulty : Prop} (hf : c.faults ≠ [] → faulty) (r : ρ) :
    ∃ x verbs t after,
      (E.projector.settle i binding uid content).exec (c, r) = (x, (after, r)) ∧
        Called c (verbs.map (callOn Secret (spaceOf i) (secondaryName i.name binding))) t after ∧
          Settled faulty i binding uid content c.secrets x verbs t := by
  unfold Projector.settle
  rw [E.projector_secrets]
  cases hc : content.isEmpty with
  | true =>
    obtain ⟨x, verbs, t, after, hx, hcalled, h⟩ :=
      exec_removeOwned (α := Secret) (spaceOf i) (secondaryName i.name binding) uid hf r
    refine ⟨_, verbs, t, after, ?_, hcalled, .removed hc h⟩
    simp only [if_true, Action.exec_bind, hx]
    cases x <;> rfl
  | false =>
    simp only [Bool.false_eq_true, if_false, Action.exec_bind, Action.exec_lift]
    cases hw : secondarySecret i binding content with
    | error e => exact ⟨_, [], _, c, rfl, .refl c, .unmade hc hw⟩
    | ok wanted =>
      obtain ⟨x, verbs, t, after, hx, hcalled, h⟩ :=
        exec_ensure applies_compareSecret (spaceOf i) (secondarySecret_name hw) hf r
      refine ⟨_, verbs, t, after, ?_, hcalled, .ensured hc hw h⟩
      simp only [hx]
      cases x <;> rfl

theorem Settled.eq_of_error {faulty : Prop} {i : Instance} {binding uid : String}
    {content : Dict Bytes} {before after : Table Secret} {e : Error} {verbs : List Verb}
    (h : Settled faulty i binding uid content before (.error e) verbs after) : after = before := by
  generalize hx : (Except.error e : Result Unit) = x at h
  cases h with
  | @removed _ y _ _ h =>
    cases y with
    | ok => cases hx
    | error => exact h.eq_of_error
  | unmade => rfl
  | @ensured _ _ _ y _ _ h =>
    cases y with
    | ok => cases hx
    | error => exact h.eq_of_error

/-! ### Drafting -/

/-- What a binding comes to before its secondary secret is settled. -/
structure Draft where
  expansion : Expansion
  /-- The sources that are to be read. -/
  refs : List (SourceRef × Access)
  sources : List (SourceRef × Source)
  plan : Plan
  pod : PodSpec

/-- The configuration text of a draft. -/
def Draft.conf (d : Draft) : String := Text.trim d.expansion.binding.conf

/-- Whether a draft is what a binding comes to on a pod, with its secondary secret as it was found
and the reader going from one state to another. -/
structure Drafted (E : Equipment ρ) (i : Instance) (b : Binding) (found : Option Secret)
    (pod : PodSpec) (r : ρ) (uid : String) (d : Draft) (r' : ρ) : Prop where
  identified : Workload.ownerUid i = .ok uid
  expanded : expand b E.settings.mountBase = .ok d.expansion
  checked : check E.catalog d.expansion.binding = .ok d.refs
  read : (E.reader.readAll (spaceOf i) d.refs).exec r = (.ok d.sources, r')
  gathered : Plan.gather E.primitives (keptFrom uid found) (E.draws b.name) 0
    { secondary := secondaryName i.name b.name } d.sources = .ok d.plan
  applied : d.plan.apply b.name E.settings.mountBase d.expansion.templates pod = .ok d.pod

section Drafted
variable {E : Equipment ρ} {i : Instance} {b : Binding} {found : Option Secret} {pod : PodSpec}
  {r r' : ρ} {uid : String} {d : Draft}

theorem Drafted.collected (h : Drafted E i b found pod r uid d r') (c : Cluster) :
    (E.projector.collect (spaceOf i) b.name (keptFrom uid found) 0
      { secondary := secondaryName i.name b.name } d.refs).exec (c, r) = (.ok d.plan, (c, r')) :=
  (collect_eq_ok E _ _ _).2 ⟨rfl, d.sources, h.read, h.gathered⟩

theorem Drafted.expansion_eq (h : Drafted E i b found pod r uid d r') {expansion : Expansion}
    (hexp : expand b E.settings.mountBase = .ok expansion) : d.expansion = expansion :=
  Except.ok.inj (h.expanded.symm.trans hexp)

theorem Drafted.refs_eq (h : Drafted E i b found pod r uid d r') {expansion : Expansion}
    (hexp : expand b E.settings.mountBase = .ok expansion) {refs : List (SourceRef × Access)}
    (hchk : check E.catalog expansion.binding = .ok refs) : d.refs = refs := by
  have hc := h.checked
  rw [h.expansion_eq hexp, hchk] at hc
  exact (Except.ok.inj hc).symm

end Drafted

/-- The ways in which projecting a binding can end. -/
inductive Projected (faulty : Prop) (E : Equipment ρ) (i : Instance) (b : Binding) (pod : PodSpec)
    (before : Table Secret) (r : ρ) :
    Result (PodSpec × String) → List Verb → Table Secret → ρ → Prop
  | refused (e : Error)
      (h : ∀ uid d r', ¬ Drafted E i b
        (before.get? (spaceOf i) (secondaryName i.name b.name)) pod r uid d r') :
    Projected faulty E i b pod before r (.error e) [] before r
  | stopped (e : Error) (r' : ρ)
      (h : faulty ∨ ∀ uid d r', ¬ Drafted E i b
        (before.get? (spaceOf i) (secondaryName i.name b.name)) pod r uid d r') :
    Projected faulty E i b pod before r (.error e) [.get] before r'
  | settled {uid : String} {d : Draft} {r' : ρ}
      (drafted : Drafted E i b
        (before.get? (spaceOf i) (secondaryName i.name b.name)) pod r uid d r')
      {x : Result Unit} {verbs : List Verb} {t : Table Secret}
      (h : Settled faulty i b.name uid d.plan.content before x verbs t) :
    Projected faulty E i b pod before r (x.map fun _ => (d.pod, d.conf)) (verbs ++ [.get]) t r'

/-- A binding that has been applied has come to a draft, and its secret has been settled. -/
theorem Projected.drafted {faulty : Prop} {E : Equipment ρ} {i : Instance} {b : Binding}
    {pod pod' : PodSpec} {before after : Table Secret} {r r' : ρ} {conf : String}
    {verbs : List Verb}
    (h : Projected faulty E i b pod before r (.ok (pod', conf)) verbs after r') :
    ∃ uid d, Drafted E i b (before.get? (spaceOf i) (secondaryName i.name b.name)) pod r uid d r' ∧
      d.pod = pod' ∧
        ∃ verbs, Settled faulty i b.name uid d.plan.content before (.ok ()) verbs after := by
  generalize hx : (Except.ok (pod', conf) : Result _) = x at h
  cases h with
  | refused => cases hx
  | stopped => cases hx
  | @settled uid d _ drafted _ verbs _ hs =>
    obtain ⟨_, rfl, he⟩ := map_eq_ok.1 hx.symm
    cases he
    exact ⟨uid, d, drafted, rfl, verbs, hs⟩

/-- Projecting that has failed has written nothing. -/
theorem Projected.eq_of_error {faulty : Prop} {E : Equipment ρ} {i : Instance} {b : Binding}
    {pod : PodSpec} {before after : Table Secret} {r r' : ρ} {e : Error} {verbs : List Verb}
    (h : Projected faulty E i b pod before r (.error e) verbs after r') : after = before := by
  generalize hx : (Except.error e : Result (PodSpec × String)) = x at h
  cases h with
  | refused | stopped => rfl
  | @settled _ _ _ _ y _ _ h =>
    cases y with
    | ok => cases hx
    | error => exact h.eq_of_error

/-- The rest of projecting a binding, once the content of its secret has been looked up. -/
theorem exec_drafting (E : Equipment ρ) {i : Instance} {b : Binding} (pod : PodSpec)
    {expansion : Expansion} (hexp : expand b E.settings.mountBase = .ok expansion)
    {refs : List (SourceRef × Access)} (hchk : check E.catalog expansion.binding = .ok refs)
    {uid : String} (huid : Workload.ownerUid i = .ok uid) {c : Cluster} {faulty : Prop}
    (hf : c.faults ≠ [] → faulty) (r : ρ) :
    ∃ x verbs t after r',
      (do
        let plan ← E.projector.collect (spaceOf i) b.name
          (keptFrom uid (c.secrets.get? (spaceOf i) (secondaryName i.name b.name))) 0
          { secondary := secondaryName i.name b.name } refs
        let pod ← attributed b.name
          (plan.apply b.name E.settings.mountBase expansion.templates pod)
        E.projector.settle i b.name uid plan.content
        return (pod, Text.trim expansion.binding.conf)).exec (c, r) = (x, (after, r')) ∧
        Called c (verbs.map (callOn Secret (spaceOf i) (secondaryName i.name b.name))) t after ∧
          Projected faulty E i b pod c.secrets r x (verbs ++ [.get]) t r' := by
  have hnone := Called.refl (α := Secret) c
  simp only [Action.exec_bind, exec_attributed]
  obtain ⟨⟨x, mid, r'⟩, hcol⟩ : ∃ y, (E.projector.collect (spaceOf i) b.name
    (keptFrom uid (c.secrets.get? (spaceOf i) (secondaryName i.name b.name))) 0
    { secondary := secondaryName i.name b.name } refs).exec (c, r) = y := ⟨_, rfl⟩
  obtain rfl : mid = c := collect_cluster E _ _ _ hcol
  rw [hcol]
  have hdraft : ∀ {uid' d r''}, Drafted E i b
      (mid.secrets.get? (spaceOf i) (secondaryName i.name b.name)) pod r uid' d r'' →
      x = .ok d.plan := by
    intro uid' d r'' h
    cases huid.symm.trans h.identified
    have hd := h.collected mid
    rw [h.refs_eq hexp hchk, hcol] at hd
    exact congrArg Prod.fst hd
  cases x with
  | error e =>
    refine ⟨_, [], _, _, _, rfl, hnone, .stopped _ _ (.inr fun _ _ _ h => ?_)⟩
    cases hdraft h
  | ok plan =>
    dsimp only
    cases happ : plan.apply b.name E.settings.mountBase expansion.templates pod with
    | error e =>
      refine ⟨_, [], _, _, _, rfl, hnone, .stopped _ _ (.inr fun _ d _ h => ?_)⟩
      have ha := h.applied
      rw [h.expansion_eq hexp, ← Except.ok.inj (hdraft h), happ] at ha
      cases ha
    | ok pod' =>
      obtain ⟨_, found, hread, hgather⟩ := (collect_eq_ok E _ _ _).1 hcol
      obtain ⟨x, verbs, t, after, hx, hcalled, hsettled⟩ :=
        exec_settle E i b.name uid plan.content hf r'
      dsimp only [Except.mapError]
      rw [hx]
      refine ⟨_, verbs, t, after, r', ?_, hcalled, .settled
        (d := ⟨expansion, refs, found, plan, pod'⟩)
        ⟨huid, hexp, hchk, hread, hgather, happ⟩ hsettled⟩
      cases x <;> rfl

theorem exec_project (E : Equipment ρ) (i : Instance) (b : Binding) (pod : PodSpec) {c : Cluster}
    {faulty : Prop} (hf : c.faults ≠ [] → faulty) (r : ρ) :
    ∃ x verbs t after r',
      (E.projector.project i b pod).exec (c, r) = (x, (after, r')) ∧
        Called c (verbs.map (callOn Secret (spaceOf i) (secondaryName i.name b.name))) t after ∧
          Projected faulty E i b pod c.secrets r x verbs t r' := by
  have hnone := Called.refl (α := Secret) c
  have hget := hnone.noted (callOn Secret (spaceOf i) (secondaryName i.name b.name) .get)
  unfold Projector.project
  rw [Action.exec_bind, exec_attributed, E.projector_mountBase]
  cases hexp : expand b E.settings.mountBase with
  | error e =>
    refine ⟨_, [], _, _, _, rfl, hnone, .refused _ fun _ _ _ h => ?_⟩
    cases hexp.symm.trans h.expanded
  | ok expansion =>
    dsimp only [Except.mapError]
    rw [Action.exec_bind, exec_attributed, E.projector_catalog]
    cases hchk : check E.catalog expansion.binding with
    | error e =>
      refine ⟨_, [], _, _, _, rfl, hnone, .refused _ fun _ _ _ h => ?_⟩
      cases hexp.symm.trans h.expanded
      cases hchk.symm.trans h.checked
    | ok refs =>
      dsimp only [Except.mapError]
      rw [Action.exec_bind, Action.exec_lift]
      cases huid : Workload.ownerUid i with
      | error e =>
        refine ⟨_, [], _, _, _, rfl, hnone, .refused _ fun _ _ _ h => ?_⟩
        cases huid.symm.trans h.identified
      | ok uid =>
        dsimp only
        rw [Action.exec_bind, exec_kept]
        cases hs : c.struck? (callOn Secret (spaceOf i) (secondaryName i.name b.name) .get) with
        | some e =>
          exact ⟨_, [.get], _, _, _, rfl, hget, .stopped _ _ (.inl (hf (faults_of_struck hs)))⟩
        | none =>
          dsimp only
          -- Nothing has been written yet, and nothing will be unless all that follows succeeds.
          obtain ⟨mid, hmid⟩ : ∃ mid, mid =
            c.noted (callOn Secret (spaceOf i) (secondaryName i.name b.name) .get) := ⟨_, rfl⟩
          have hf' : mid.faults ≠ [] → faulty := fun h => hf (faults_of_noted (hmid ▸ h))
          have hsecrets : mid.secrets = c.secrets := hmid ▸ rfl
          obtain ⟨x, verbs, t, after, r', hx, hcalled, h⟩ :=
            exec_drafting E pod hexp hchk huid hf' r
          rw [hsecrets] at hx h
          rw [← hmid] at hget ⊢
          rw [hx]
          refine ⟨_, verbs ++ [.get], t, after, r', rfl, ?_, h⟩
          rw [List.map_append]
          exact hget.trans hcalled

/-! ### All objects -/

section Each
variable {P : String → String → Secret → Prop} {faulty : Prop} {i : Instance}
  {before after : Table Secret} {verbs : List Verb}

theorem Settled.each {binding uid : String} {content : Dict Bytes} {x : Result Unit}
    (h : Settled faulty i binding uid content before x verbs after)
    (keeps : ∀ wanted, secondarySecret i binding content = .ok wanted →
      Keeps compareSecret (spaceOf i) (secondaryName i.name binding) wanted P)
    (hb : before.Each P) : after.Each P := by
  cases h with
  | removed _ h => exact h.each hb
  | unmade => exact hb
  | ensured _ made h => exact h.each (keeps _ made) hb

theorem Projected.each {E : Equipment ρ} {b : Binding} {pod : PodSpec} {r r' : ρ}
    {x : Result (PodSpec × String)}
    (h : Projected faulty E i b pod before r x verbs after r')
    (keeps : ∀ content wanted, secondarySecret i b.name content = .ok wanted →
      Keeps compareSecret (spaceOf i) (secondaryName i.name b.name) wanted P)
    (hb : before.Each P) : after.Each P := by
  cases h with
  | settled _ h => exact h.each (keeps _) hb
  | _ => exact hb

end Each

end ServiceBinding.Binding
