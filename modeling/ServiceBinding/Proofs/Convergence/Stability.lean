import ServiceBinding.Proofs.Convergence.Resting

/-!
Trying again. An attempt that has gone through leaves its place at rest (`Ensured.rests`), and one
on a place at rest makes a single call, to look (`exec_ensure_of_rests`). So each attempt that has
gone through would find nothing to do the next time, if only the faults to come do not change in
between (`ensure_idempotent`).
-/
namespace ServiceBinding.Convergence
open Cluster Object
variable {ρ α : Type}

/-- A comparison is content with what it proposes, which is never what it has found. -/
def Resolves (compare : Comparer α) : Prop :=
  ∀ wanted found updated, compare wanted found = .differs updated →
    compare wanted updated = .equal ∧ updated ≠ found

section Repeating
variable [Stored α]

/-- An attempt that has gone through makes the next one look at the place and leave it alone, in
every cluster whose faults answer any number of calls. -/
def Idempotent (ρ : Type) (compare : Comparer α) : Prop :=
  ∀ (c c' : Cluster) (r r' : ρ) (space name : String) (wanted : α) (o : Outcome),
    Lasting c.faults → (Resource.metadata wanted).name = some name →
    (ensure (store α).onLeft compare space name wanted).exec (c, r) = (.ok o, (c', r')) →
      (ensure (store α).onLeft compare space name wanted).exec (c', r') =
        (.ok .unchanged,
          (c'.logged c'.faults (callOn α space name .get :: c'.calls), r'))

/-! ### Attempts -/

variable [LawfulStored α] {compare : Comparer α} {c : Cluster} {space name : String} {wanted : α}

/-- No fault has struck the look at the start of an attempt that has gone through. -/
theorem struck?_of_exec_ensure {r : ρ} {o : Outcome} {s : Cluster × ρ}
    (h : (ensure (store α).onLeft compare space name wanted).exec (c, r) = (.ok o, s)) :
    c.struck? (callOn α space name .get) = none := by
  unfold ensure at h
  rw [Action.exec_bind, exec_get] at h
  cases hs : c.struck? (callOn α space name .get) with
  | none => rfl
  | some e =>
    rw [hs] at h
    cases h

/-- An attempt on a place at rest looks, and that is all. -/
theorem exec_ensure_of_rests (r : ρ) (calm : c.struck? (callOn α space name .get) = none)
    (rests : Rests compare wanted ((Stored.table c : Table α).get? space name)) :
    (ensure (store α).onLeft compare space name wanted).exec (c, r) =
      (.ok .unchanged, (c.noted (callOn α space name .get), r)) := by
  obtain ⟨found, there, free, equal⟩ := rests
  unfold ensure
  rw [Action.exec_bind, exec_get, calm]
  simp only [there, free, equal, Bool.false_eq_true, if_false, Action.exec_pure]

theorem idempotent_of_converges (ρ : Type) (applies : Applies compare)
    (converges : Converges compare) : Idempotent ρ compare := by
  intro c c' r r' space name wanted o lasting named h
  have calm := struck?_of_exec_ensure h
  obtain ⟨x, verbs, t, after, hexec, called, ensured⟩ :=
    exec_ensure applies space named (fun _ => trivial : c.faults ≠ [] → True) r
  cases hexec.symm.trans h
  have faults : c'.faults = c.faults := called.faults.trans (lasting.unused _)
  have rests := ensured.rests applies converges
  rw [← called.table] at rests
  rw [exec_ensure_of_rests r (by rwa [struck?, faults]) rests, noted, faults, lasting.strike]

end Repeating

/-! ### Comparisons -/

/-- A comparison that does not look at versions is content with what it proposes also before that
is stored. -/
theorem resolves_of_converges [Resource α] {compare : Comparer α} (converges : Converges compare)
    (blind : ∀ wanted found version, compare wanted (Table.withVersion found version) = .equal →
      compare wanted found = .equal) : Resolves compare := by
  intro wanted found updated differs
  have equal := blind _ _ _ (converges.updated _ _ _ "" differs)
  refine ⟨equal, ?_⟩
  rintro rfl
  cases differs.symm.trans equal

theorem resolves_compareDeployment : Resolves compareDeployment :=
  resolves_of_converges converges_compareDeployment fun _ _ _ h =>
    have agrees := compareDeployment_eq_equal.1 h
    compareDeployment_eq_equal.2 agrees

theorem resolves_compareSecret : Resolves compareSecret :=
  resolves_of_converges converges_compareSecret fun _ _ _ h =>
    have agrees := compareSecret_eq_equal.1 h
    compareSecret_eq_equal.2 agrees

theorem resolves_compareConfigMap : Resolves compareConfigMap :=
  resolves_of_converges converges_compareConfigMap fun _ _ _ h =>
    have agrees := compareConfigMap_eq_equal.1 h
    compareConfigMap_eq_equal.2 agrees

/-- **Attempts are idempotent**: once an attempt on a deployment, a secret or a config map has gone
through, the same attempt finds nothing to do and leaves all objects as they are. For what a
comparison proposes is something new, with which it is content. -/
theorem ensure_idempotent (ρ : Type) :
    (Resolves compareDeployment ∧ Idempotent ρ compareDeployment) ∧
      (Resolves compareSecret ∧ Idempotent ρ compareSecret) ∧
        (Resolves compareConfigMap ∧ Idempotent ρ compareConfigMap) :=
  ⟨⟨resolves_compareDeployment,
      idempotent_of_converges ρ applies_compareDeployment converges_compareDeployment⟩,
    ⟨resolves_compareSecret,
      idempotent_of_converges ρ applies_compareSecret converges_compareSecret⟩,
    resolves_compareConfigMap,
    idempotent_of_converges ρ applies_compareConfigMap converges_compareConfigMap⟩

/-- A deployment is scaled up, whose container the platform has given a policy for pulling. -/
theorem ensure_idempotent_scaled :
    let deployment (replicas : Int32) (pull : Option String) : Deployment :=
      { metadata := { name := some "nx" }
        spec := some {
          replicas := some replicas
          template := { spec := some { containers := [
            { name := "nuxeo", image := some "nuxeo:2023", imagePullPolicy := pull }] } } } }
    let c : Cluster := { deployments := Table.seed {} "prod" (deployment 1 (some "Always")) }
    let attempt := ensure (store Deployment).onLeft compareDeployment "prod" "nx"
      (deployment 3 none)
    ∃ c', attempt.exec (c, ()) = (.ok .updated, (c', ())) ∧
      attempt.exec (c', ()) = (.ok .unchanged, (c'.logged [] (⟨.get, "Deployment", "prod", "nx"⟩ ::
        c'.calls), ())) := by
  intro deployment c attempt
  have hfirst : (attempt.exec (c, ())).1 = .ok .updated := by decide +kernel
  have quiet : (attempt.exec (c, ())).2.1.faults = [] := by decide +kernel
  generalize hrun : attempt.exec (c, ()) = y at hfirst quiet
  obtain ⟨x, c', ⟨⟩⟩ := y
  cases hfirst
  have again := (ensure_idempotent Unit).1.2 c c' () () "prod" "nx" (deployment 3 none) .updated
    (fun _ h => nomatch h) rfl hrun
  dsimp only at quiet
  rw [quiet] at again
  exact ⟨c', rfl, again⟩

end ServiceBinding.Convergence
