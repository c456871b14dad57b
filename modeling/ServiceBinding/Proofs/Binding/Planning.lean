import ServiceBinding.Proofs.Equipment
import ServiceBinding.Proofs.Results

/-!
Planning a binding, in two steps that the projector takes together: reading all of its sources
(`readAll`), and then adding to the plan what they ask for (`gather`), which is a pure function.
A plan that is collected is the one that the two give, and collecting never touches the cluster.
-/
namespace ServiceBinding.Binding
open Cluster Convergence Crypto Object
variable {ρ : Type}

/-- Reads some sources one after the other, each under the reference to it. -/
def SourceReader.readAll (reader : SourceReader ρ) (space : String) :
    List (SourceRef × Access) → Action ρ (List (SourceRef × Source))
  | [] => return []
  | (ref, access) :: rest => do
    let source ← reader.read space ref.name access
    return (ref, source) :: (← reader.readAll space rest)

/-- Adds what all sources ask for, the draws counted from `k` on. -/
def Plan.gather (P : Primitives) (kept : Dict Bytes) (draws : Nat → Draw) :
    Nat → Plan → List (SourceRef × Source) → Result Plan
  | _, plan, [] => .ok plan
  | k, plan, (ref, source) :: rest => do
    gather P kept draws (k + ref.projections.length)
      (← plan.realizeAll P kept draws source k ref.projections) rest

/-- What has been read answers to the references, each read once. -/
theorem SourceReader.mem_readAll {reader : SourceReader ρ} {space : String}
    {refs : List (SourceRef × Access)} {found : List (SourceRef × Source)} {r r' : ρ}
    (h : (reader.readAll space refs).exec r = (.ok found, r')) :
    ∀ s ∈ found, ∃ access before after, (s.1, access) ∈ refs ∧
      (reader.read space s.1.name access).exec before = (.ok s.2, after) := by
  induction refs generalizing found r with
  | nil =>
    cases h
    intro s hs
    cases hs
  | cons ref rest ih =>
    obtain ⟨source, mid, hsource, h⟩ := Action.exec_bind_ok.1 h
    obtain ⟨others, last, hothers, h⟩ := Action.exec_bind_ok.1 h
    cases h
    refine List.forall_mem_cons.2 ⟨⟨ref.2, r, mid, List.mem_cons_self, hsource⟩, fun s hs => ?_⟩
    obtain ⟨access, before, after, hmem, hread⟩ := ih hothers s hs
    exact ⟨access, before, after, List.mem_cons_of_mem _ hmem, hread⟩

/-- What has been read are the sources referred to, in that order. -/
theorem SourceReader.map_fst_readAll {reader : SourceReader ρ} {space : String}
    {refs : List (SourceRef × Access)} {found : List (SourceRef × Source)} {r r' : ρ}
    (h : (reader.readAll space refs).exec r = (.ok found, r')) :
    found.map (·.1) = refs.map (·.1) := by
  induction refs generalizing found r with
  | nil =>
    cases h
    rfl
  | cons ref rest ih =>
    obtain ⟨source, mid, _, h⟩ := Action.exec_bind_ok.1 h
    obtain ⟨others, last, hothers, h⟩ := Action.exec_bind_ok.1 h
    cases h
    rw [List.map_cons, List.map_cons, ih hothers]

/-- A source that is read by key has the name it was asked for by. -/
theorem SourceReader.name_of_read {reader : SourceReader ρ} {space name name' : String}
    {access : Access} {kind : KeyedKind} {values : Dict Bytes} {r r' : ρ}
    (h : (reader.read space name access).exec r = (.ok (.keyed kind name' values), r')) :
    name' = name := by
  rcases access with (_ | _) | _
  all_goals
    obtain ⟨_, _, _, h⟩ := Action.exec_bind_ok.1 h
    cases h
  · rfl
  · rfl

/-! ### Results -/

@[simp] theorem exec_attributed {σ α : Type} (binding : String) (r : Result α) (s : σ) :
    (attributed binding r).exec s = (r.mapError (·.inBinding binding), s) := by
  cases r <;> rfl

section Collecting
variable (E : Equipment ρ) (space binding : String) (kept : Dict Bytes)

theorem exec_collect_cluster (k : Nat) (plan : Plan) (sources : List (SourceRef × Access))
    (s : Cluster × ρ) :
    ((E.projector.collect space binding kept k plan sources).exec s).2.1 = s.1 := by
  induction sources generalizing k plan s with
  | nil => rfl
  | cons source rest ih =>
    rw [Projector.collect, Action.exec_bind, E.exec_read]
    obtain ⟨e | x, r⟩ := (E.reader.read space source.1.name source.2).exec s.2
    · rfl
    · dsimp only
      rw [Action.exec_bind, exec_attributed]
      obtain e | plan := plan.realizeAll E.projector.primitives kept (E.projector.draws binding) x
        k source.1.projections
      · rfl
      · exact ih _ _ _

/-- Collecting a plan leaves the cluster alone, whatever comes of it. -/
theorem collect_cluster {k : Nat} {plan : Plan} {sources : List (SourceRef × Access)}
    {s t : Cluster × ρ} {x : Result Plan}
    (h : (E.projector.collect space binding kept k plan sources).exec s = (x, t)) :
    t.1 = s.1 := by
  rw [← exec_collect_cluster E space binding kept k plan sources s, h]

/-- A plan is collected exactly when the sources can be read and what they ask for be added. -/
theorem collect_eq_ok {k : Nat} {plan plan' : Plan} {sources : List (SourceRef × Access)}
    {c c' : Cluster} {r r' : ρ} :
    (E.projector.collect space binding kept k plan sources).exec (c, r) = (.ok plan', (c', r')) ↔
      c' = c ∧ ∃ found, (E.reader.readAll space sources).exec r = (.ok found, r') ∧
        plan.gather E.primitives kept (E.draws binding) k found = .ok plan' := by
  induction sources generalizing k plan r with
  | nil =>
    simp only [Projector.collect, SourceReader.readAll, Action.exec_pure, Prod.mk.injEq,
      Except.ok.injEq]
    constructor
    · rintro ⟨rfl, rfl, rfl⟩
      exact ⟨rfl, [], ⟨rfl, rfl⟩, rfl⟩
    · rintro ⟨rfl, _, ⟨rfl, rfl⟩, h⟩
      exact ⟨Except.ok.inj h, rfl, rfl⟩
  | cons source rest ih =>
    rw [Projector.collect, SourceReader.readAll, Action.exec_bind, Action.exec_bind, E.exec_read]
    obtain ⟨e | x, u⟩ := (E.reader.read space source.1.name source.2).exec r
    · simp
    · dsimp only
      rw [Action.exec_bind, exec_attributed]
      cases hp : plan.realizeAll E.primitives kept (E.draws binding) x k source.1.projections with
      | error e =>
        -- What the first source asks for cannot be added, whatever the others hold.
        have hg : ∀ found, plan.gather E.primitives kept (E.draws binding) k
            ((source.1, x) :: found) ≠ .ok plan' := by
          intro found h
          rw [Plan.gather, hp] at h
          cases h
        rw [show plan.realizeAll E.projector.primitives kept (E.projector.draws binding) x k
          source.1.projections = .error e from hp]
        simp only [Action.exec_bind_ok, Action.exec_pure]
        constructor
        · rintro ⟨⟩
        · rintro ⟨_, _, ⟨found, u, _, ⟨⟩⟩, h⟩
          exact absurd h (hg found)
      | ok next =>
        have hg : ∀ found, plan.gather E.primitives kept (E.draws binding) k
            ((source.1, x) :: found) = next.gather E.primitives kept (E.draws binding)
              (k + source.1.projections.length) found := by
          intro found
          rw [Plan.gather, hp]
          rfl
        rw [show plan.realizeAll E.projector.primitives kept (E.projector.draws binding) x k
          source.1.projections = .ok next from hp]
        show ((E.projector.collect space binding kept _ next rest).exec (c, u) = _) ↔ _
        simp only [ih, Action.exec_bind_ok, Action.exec_pure]
        refine and_congr_right' ⟨?_, ?_⟩
        · rintro ⟨found, hr, h⟩
          exact ⟨_, ⟨found, r', hr, rfl⟩, (hg found).trans h⟩
        · rintro ⟨_, ⟨found, _, hr, ⟨⟩⟩, h⟩
          exact ⟨found, hr, (hg found).symm.trans h⟩

/-- Collecting a plan fails at a source that cannot be read, or at what one of those read asks
for. -/
theorem of_collect_eq_error {k : Nat} {plan : Plan} {sources : List (SourceRef × Access)}
    {e : Error} {c : Cluster} {r : ρ} {t : Cluster × ρ}
    (h : (E.projector.collect space binding kept k plan sources).exec (c, r) = (.error e, t)) :
    (∃ source ∈ sources, ∃ before after,
      (E.reader.read space source.1.name source.2).exec before = (.error e, after)) ∨
    ∃ n found after e', (E.reader.readAll space (sources.take n)).exec r = (.ok found, after) ∧
      plan.gather E.primitives kept (E.draws binding) k found = .error e' ∧
        e = e'.inBinding binding := by
  induction sources generalizing k plan r with
  | nil => cases h
  | cons source rest ih =>
    rw [Projector.collect, Action.exec_bind, E.exec_read] at h
    cases hread : (E.reader.read space source.1.name source.2).exec r with
    | mk x u =>
      rw [hread] at h
      cases x with
      | error e =>
        cases h
        exact .inl ⟨source, List.mem_cons_self, r, u, hread⟩
      | ok x =>
        dsimp only at h
        rw [Action.exec_bind, exec_attributed] at h
        cases hp : plan.realizeAll E.primitives kept (E.draws binding) x k source.1.projections with
        | error e' =>
          rw [show plan.realizeAll E.projector.primitives kept (E.projector.draws binding) x k
            source.1.projections = .error e' from hp] at h
          cases h
          refine .inr ⟨1, [(source.1, x)], u, e', ?_, ?_, rfl⟩
          · exact Action.exec_bind_ok.2 ⟨x, u, hread, rfl⟩
          · rw [Plan.gather, hp]
            rfl
        | ok next =>
          rw [show plan.realizeAll E.projector.primitives kept (E.projector.draws binding) x k
            source.1.projections = .ok next from hp] at h
          rcases ih h with ⟨other, hother, h⟩ | ⟨n, found, after, e', hfound, hgather, he⟩
          · exact .inl ⟨other, List.mem_cons_of_mem _ hother, h⟩
          · refine .inr ⟨n + 1, (source.1, x) :: found, after, e', ?_, ?_, he⟩
            · exact Action.exec_bind_ok.2
                ⟨x, u, hread, Action.exec_bind_ok.2 ⟨found, after, hfound, rfl⟩⟩
            · rw [Plan.gather, hp]
              exact hgather

end Collecting

end ServiceBinding.Binding
