import ServiceBinding.Proofs.Binding.Dropping
import ServiceBinding.Proofs.Binding.Repeating
import ServiceBinding.Proofs.Text.Splitting

/-!
No secret outlives its binding. Secondary secrets are found again by a selector, a text that is
taken apart by the API server, and by their owner; every secret that a pass stores carries what both
look for (`IsTraced`). So cleaning up deletes just the secrets that are spare (`IsSpare`), and where
only passes over one instance have written, a pass that has cleaned up leaves no secret but those of
the bindings it was asked for.
-/
namespace ServiceBinding
open Binding Cluster Convergence Object Workload
variable {ρ : Type}

/-! ### Labels -/

/-- Whether metadata has the labels of the secondary secrets of an owner. -/
def Binding.IsLabelled (owner : String) (m : Meta) : Prop :=
  (m.labels.getD {}).get? instanceLabel = some owner ∧
    (m.labels.getD {}).get? componentLabel = some secondaryComponent

/-- The selector of secondary secrets asks for two labels, if the owner's name has no comma. -/
theorem Binding.selectorPairs_secondarySelector {owner : String} (plain : ',' ∉ owner.toList) :
    Table.selectorPairs (secondarySelector owner) =
      [(instanceLabel, owner), (componentLabel, secondaryComponent)] := by
  have hsplit : Text.split (secondarySelector owner) "," =
      [instanceLabel ++ "=" ++ owner, componentLabel ++ "=" ++ secondaryComponent] := by
    have hinstance : ',' ∉ (instanceLabel ++ "=" ++ owner).toList := by
      rw [String.toList_append, List.mem_append, not_or]
      exact ⟨by decide, plain⟩
    rw [← Text.split_append hinstance (by decide)]
    simp only [secondarySelector, String.append_assoc]
    rfl
  unfold Table.selectorPairs
  rw [hsplit]
  have hcut : ∀ {s : String} (t : String), '=' ∉ s.toList →
      Text.cutAt? '=' (s ++ "=" ++ t) = some (s, t) :=
    fun t hs => Text.cutAt?_append hs t
  simp only [List.filterMap_cons, List.filterMap_nil]
  rw [hcut _ (by decide), hcut _ (by decide)]

theorem Binding.isSelected_secondarySelector {owner : String} (plain : ',' ∉ owner.toList)
    (m : Meta) :
    Table.isSelected (Table.selectorPairs (secondarySelector owner)) m = true ↔
      IsLabelled owner m := by
  rw [selectorPairs_secondarySelector plain]
  simp [Table.isSelected, IsLabelled]

theorem Binding.isLabelled_secondarySecret {i : Instance} {binding : String}
    {content : Dict Bytes} {wanted : Secret}
    (made : secondarySecret i binding content = .ok wanted) :
    IsLabelled i.name wanted.metadata := by
  obtain ⟨owned, ho, h⟩ := bind_eq_ok.1 made
  cases h
  obtain ⟨ref, _, h⟩ := bind_eq_ok.1 ho
  cases h
  constructor
  · simp [Dict.get?_insert, instanceLabel, componentLabel, bindingLabel, labels, Dict.ofList]
  · simp [Dict.get?_insert, componentLabel, bindingLabel]

/-- Labels that are applied are there afterwards. -/
theorem Binding.IsLabelled.applyMeta {owner : String} {wanted : Meta}
    (h : IsLabelled owner wanted) (found : Meta) : IsLabelled owner (applyMeta wanted found) := by
  unfold IsLabelled Convergence.applyMeta at *
  cases hl : wanted.labels with
  | none =>
    rw [hl] at h
    cases h.1
  | some labels =>
    rw [hl] at h
    simp only [applyLabels, Option.getD_some, Dict.get?_union] at h ⊢
    rw [h.1, h.2]
    exact ⟨rfl, rfl⟩

/-! ### Traces -/

/-- Whether a secret at some place can be traced to an instance: it is where it says, and has the
labels and the owner that secondary secrets are looked for by. -/
structure Binding.IsTraced (owner space uid : String) (space' name : String) (s : Secret) :
    Prop where
  placed : space' = space
  named : s.metadata.name = some name
  labelled : IsLabelled owner s.metadata
  owned : s.metadata.isOwnedBy uid = true

/-- Every secret made for an instance can be traced to it, also one that it takes over. -/
theorem Binding.keptBySecondaries_traced {i : Instance} {uid : String}
    (identified : ownerUid i = .ok uid) :
    KeptBySecondaries i (IsTraced i.name (spaceOf i) uid) := by
  intro binding content wanted made
  have hname := secondarySecret_name made
  have hmade := secondarySecret_isMadeFor identified made
  have hlabelled := isLabelled_secondarySecret made
  refine ⟨fun version => ⟨rfl, hname, hlabelled, isOwnedBy_of_isMadeFor hmade⟩, ?_⟩
  · rintro found updated version differs ⟨_, named, _, _⟩
    have happlied : updated.metadata = applyMeta wanted.metadata found.metadata :=
      applies_compareSecret _ _ _ differs
    refine ⟨rfl, ?_, ?_, ?_⟩
    · show updated.metadata.name = _
      rw [happlied]
      exact named
    · show IsLabelled _ { updated.metadata with resourceVersion := some version }
      rw [happlied]
      exact hlabelled.applyMeta found.metadata
    · show Meta.isOwnedBy { updated.metadata with resourceVersion := some version } uid = true
      rw [happlied]
      exact isOwnedBy_applyMeta hmade found.metadata

theorem Operator.Passed.each {P : String → String → Secret → Prop} {faulty : Prop}
    {E : Equipment ρ} {i : Instance} {c after : Cluster} {r r' : ρ} {x : Result Nat}
    (h : Passed faulty E i c r x after r') (keeps : KeptBySecondaries i P)
    (hc : c.secrets.Each P) : after.secrets.Each P := by
  cases h with
  | refused => exact hc
  | @swept _ _ _ _ _ _ _ _ t mid _ _ swept called _ _ finished =>
    obtain rfl : mid.secrets = t := called.table
    rw [finished.secrets]
    exact swept.each keeps hc

/-! ### Cleaning up -/

/-- Whether a secret at some place is spare: it has the labels of the instance's secondary secrets
and its owner, and no binding that is declared. -/
structure Binding.IsSpare (i : Instance) (uid space name : String) (s : Secret) : Prop where
  placed : space = spaceOf i
  labelled : IsLabelled i.name s.metadata
  owned : s.metadata.isOwnedBy uid = true
  undeclared : ¬ IsSecondary i i.spec.bindings name

section Cleaning
variable {faulty : Prop} {i : Instance} {uid : String} {before after : Table Secret}
  {log : List Call}

/-- The leftovers in a table are the secrets that are spare. -/
theorem Binding.mem_leftovers_iff (plain : ',' ∉ i.name.toList) {t : Table Secret}
    (named : t.Named) {name : String} {s : Secret} (there : t.get? (spaceOf i) name = some s) :
    s ∈ leftovers i uid t ↔ IsSpare i uid (spaceOf i) name s := by
  have hname : s.metadata.displayName = name := named.displayName there
  unfold leftovers
  rw [List.mem_filter, Table.mem_select, isLeftover_iff, isSelected_secondarySelector plain, hname]
  constructor
  · rintro ⟨⟨_, labelled⟩, undeclared, owned⟩
    exact ⟨rfl, labelled, owned, undeclared⟩
  · rintro ⟨_, labelled, owned, undeclared⟩
    exact ⟨⟨⟨name, there⟩, labelled⟩, undeclared, owned⟩

/-- Cleaning up leaves every place as it was, or has deleted a spare secret there. -/
theorem Binding.Pruned.eq_or_spare {x : Result (List String)} (plain : ',' ∉ i.name.toList)
    (identified : ownerUid i = .ok uid) (named : before.Named)
    (h : Pruned faulty i before x log after) (space name : String) :
    after.get? space name = before.get? space name ∨
      after.get? space name = none ∧
        ∃ s, before.get? space name = some s ∧ IsSpare i uid space name s := by
  refine (h.eq_or_leftover identified named space name).imp_right ?_
  rintro ⟨gone, rfl, s, hs, there⟩
  exact ⟨gone, s, there, (mem_leftovers_iff plain named there).1 hs⟩

/-- Cleaning up that has gone through has deleted every spare secret. -/
theorem Binding.Pruned.none_of_spare {names : List String} (plain : ',' ∉ i.name.toList)
    (identified : ownerUid i = .ok uid) (named : before.Named)
    (h : Pruned faulty i before (.ok names) log after) {space name : String} {s : Secret}
    (there : before.get? space name = some s) (spare : IsSpare i uid space name s) :
    after.get? space name = none := by
  cases h with
  | deleted identified' h =>
    cases identified.symm.trans identified'
    obtain rfl := spare.placed
    have hs := (mem_leftovers_iff plain named there).2 spare
    have hname : s.metadata.displayName = name := named.displayName there
    rw [← hname]
    exact h.cleared s hs

/-- Where every secret can be traced to the instance, cleaning up that has gone through leaves those
of declared bindings. -/
theorem Binding.Pruned.declared_of_traced {names : List String} (plain : ',' ∉ i.name.toList)
    (identified : ownerUid i = .ok uid)
    (traced : before.Each (IsTraced i.name (spaceOf i) uid))
    (h : Pruned faulty i before (.ok names) log after) {space name : String} {s : Secret}
    (there : after.get? space name = some s) :
    space = spaceOf i ∧ IsSecondary i i.spec.bindings name := by
  have named : before.Named := fun space name s h => (traced space name s h).named
  obtain ⟨placed, _, labelled, owned⟩ := h.each traced _ _ _ there
  refine ⟨placed, by_contra fun undeclared => ?_⟩
  have hbefore : before.get? space name = some s := by
    rcases h.eq_or_spare plain identified named space name with he | ⟨gone, _⟩
    · rw [← he, there]
    · cases gone.symm.trans there
  have gone := h.none_of_spare plain identified named hbefore ⟨placed, labelled, owned, undeclared⟩
  cases gone.symm.trans there

end Cleaning

/-! ### Passes -/

/-- Whether an instance, whatever is asked of it, is the one of a name, a namespace and a UID. -/
structure Instance.IsOf (i : Instance) (owner space uid : String) : Prop where
  named : i.name = owner
  placed : i.metadata.space = some space
  identity : i.metadata.uid = some uid

section Identity
variable {i : Instance} {owner space uid : String}

theorem Instance.IsOf.spaceOf_eq (h : i.IsOf owner space uid) : spaceOf i = space := by
  unfold spaceOf
  rw [h.placed]
  rfl

theorem Instance.IsOf.identified (h : i.IsOf owner space uid) : ownerUid i = .ok uid :=
  ownerUid_eq_ok.2 h.identity

end Identity

/-- Whether the secrets of a cluster are what passes over one instance have come to, from none on,
with no other writer of secrets. From pass to pass, whatever else there is may have changed: what is
asked of the instance, the equipment, the reader, other objects and the faults. -/
inductive Operator.Reached (owner space uid : String) : Table Secret → Prop
  | start : Reached owner space uid {}
  | pass {ρ : Type} (E : Equipment ρ) {i : Instance} (same : i.IsOf owner space uid) (c : Cluster)
      (r : ρ) (reached : Reached owner space uid c.secrets) :
    Reached owner space uid ((E.operator.pass i).exec (c, r)).2.1.secrets

/-- Every secret that only passes over one instance have written can be traced to it. -/
theorem Operator.Reached.traced {owner space uid : String} {t : Table Secret}
    (h : Reached owner space uid t) : t.Each (IsTraced owner space uid) := by
  induction h with
  | start => exact Table.Each.empty _
  | @pass _ E i same c r _ ih =>
    obtain ⟨x, after, r', hx, passed⟩ := exec_pass E i (c := c) (fun _ => trivial) r
    have keeps := keptBySecondaries_traced same.identified
    rw [same.named, same.spaceOf_eq] at keeps
    rw [hx]
    exact passed.each keeps ih

namespace Operator

/-- Whether the sweep of a pass has cleaned up: no call can have failed, or the cleaning up is not
among the failures. -/
def CleansUp (E : Equipment ρ) (i : Instance) (pod : PodSpec) (c : Cluster) (r : ρ) : Prop :=
  c.faults = [] ∨
    Projector.cleanupName ∉ ((E.projector.projectAll i pod).run (c, r)).1.2.failed.map (·.1)

section Passes
variable {E : Equipment ρ} {c : Cluster} {r : ρ}

theorem CleansUp.exists_ok {i : Instance} {uid : String} {pod : PodSpec}
    (h : CleansUp E i pod c r) (identified : ownerUid i = .ok uid) {p : Projector.Progress}
    {pruned : Result (List String)} {s : Cluster × ρ}
    (ran : (E.projector.projectAll i pod).run (c, r) = ((p.pod, reportOf p pruned), s))
    {before after : Table Secret} {log : List Call}
    (gone : Pruned (c.faults ≠ []) i before pruned log after) : ∃ names, pruned = .ok names := by
  rcases h with quiet | clean
  · simp only [quiet, ne_eq, not_true_eq_false] at gone
    exact gone.exists_ok identified
  · cases pruned with
    | ok names => exact ⟨names, rfl⟩
    | error e =>
      rw [ran] at clean
      simp [reportOf] at clean

/-- A pass that has cleaned up leaves the secrets of declared bindings only. -/
theorem declared_of_reached {i : Instance} {owner space uid : String}
    (same : i.IsOf owner space uid) (plain : ',' ∉ owner.toList)
    (reached : Reached owner space uid c.secrets) {space' uid' : String} {d : Deployment}
    {pod : PodSpec} (prepared : Prepared i space' uid' d pod) (clean : CleansUp E i pod c r)
    {place name : String} {s : Secret}
    (there : ((E.operator.pass i).exec (c, r)).2.1.secrets.get? place name = some s) :
    place = space ∧ IsSecondary i i.spec.bindings name := by
  have traced := reached.traced
  have keeps := keptBySecondaries_traced same.identified
  rw [← same.spaceOf_eq] at traced ⊢
  rw [← same.named] at traced plain
  obtain ⟨x, after, r', hx, passed⟩ := exec_pass E i (c := c) id r
  rw [hx] at there
  cases passed with
  | refused _ h => exact absurd prepared (h _ _ _ _)
  | @swept _ _ _ _ prepared' p pruned _ t mid _ ran swept called _ _ finished =>
    obtain rfl : mid.secrets = t := called.table
    obtain ⟨_, _, rfl, rfl⟩ := prepared.unique prepared'
    obtain ⟨table, each, gone, rfl, heach, hgone⟩ := swept.split
    obtain ⟨names, rfl⟩ := clean.exists_ok same.identified ran hgone
    rw [finished.secrets] at there
    exact hgone.declared_of_traced plain same.identified (heach.each keeps traced) there

end Passes

/-! ### Cleaning up alone -/

/-- Whether cleaning up deletes just the spare secrets. -/
structure PrunesSpare (E : Equipment ρ) (i : Instance) (uid : String) (c : Cluster) (r : ρ) :
    Prop where
  /-- Every place is as it was, or had a spare secret that is gone. -/
  places : ∀ space name,
    let after := ((E.projector.prune i).exec (c, r)).2.1.secrets.get? space name
    after = c.secrets.get? space name ∨
      after = none ∧ ∃ s, c.secrets.get? space name = some s ∧ IsSpare i uid space name s
  /-- Once it has gone through, every spare secret is gone, and no other one. -/
  gone : ((E.projector.prune i).exec (c, r)).1.isOk = true →
    ∀ space name s, c.secrets.get? space name = some s →
      (((E.projector.prune i).exec (c, r)).2.1.secrets.get? space name = none ↔
        IsSpare i uid space name s)
  /-- Without faults it goes through. -/
  succeeds : c.faults = [] → ((E.projector.prune i).exec (c, r)).1.isOk = true

theorem prunesSpare (E : Equipment ρ) {i : Instance} {uid : String}
    (plain : ',' ∉ i.name.toList) (identified : ownerUid i = .ok uid) {c : Cluster}
    (named : c.secrets.Named) (r : ρ) : PrunesSpare E i uid c r := by
  obtain ⟨x, log, t, after, hx, called, pruned⟩ := exec_prune E i (c := c) id r
  obtain rfl : after.secrets = t := called.table
  refine ⟨fun space name => ?_, fun hok space name s there => ?_, fun quiet => ?_⟩
  · rw [hx]
    exact pruned.eq_or_spare plain identified named space name
  · rw [hx] at hok ⊢
    cases x with
    | error e => cases hok
    | ok names =>
      refine ⟨fun hnone => ?_, pruned.none_of_spare plain identified named there⟩
      rcases pruned.eq_or_spare plain identified named space name with he | ⟨_, s', hs', spare⟩
      · cases (hnone.symm.trans he).trans there
      · cases there.symm.trans hs'
        exact spare
  · simp only [quiet, ne_eq, not_true_eq_false] at pruned
    obtain ⟨names, rfl⟩ := pruned.exists_ok identified
    rw [hx]
    rfl

/-- A declared binding that is not applied keeps its secret, or goes on without one. -/
theorem secret_of_notMem (E : Equipment ρ) {i : Instance} {uid : String}
    (identified : ownerUid i = .ok uid) (valid : i.spec.validate = .ok ()) (pod : PodSpec)
    (c : Cluster) (r : ρ) {b : Binding} (declared : b ∈ i.spec.bindings)
    (failed : b.name ∉ ((E.projector.projectAll i pod).run (c, r)).1.2.applied) :
    ((E.projector.projectAll i pod).run (c, r)).2.1.secrets.get? (spaceOf i)
      (secondaryName i.name b.name) =
        c.secrets.get? (spaceOf i) (secondaryName i.name b.name) := by
  obtain ⟨earlier, later, split⟩ := List.append_of_mem declared
  rcases secret_cases identified valid split c r with ⟨applied, _⟩ | ⟨_, same⟩
  · exact absurd applied failed
  · exact same

/-- **No secret outlives its binding.** Take an instance whose name has no comma. Where only its
passes have written secrets, whatever was asked of it in each and however each ended, a pass that
gets to its sweep and cleans up leaves no secret but those of the bindings it was asked for. Of any
secrets stored under their names, cleaning up deletes just those that are spare: they have the
instance's labels and owner and no declared binding. And a declared binding that is not applied
keeps its secret through the sweep. -/
theorem secrets_within_declared {i : Instance} {owner space uid : String}
    (same : i.IsOf owner space uid) (plain : ',' ∉ owner.toList) (E : Equipment ρ) (c : Cluster)
    (r : ρ) :
    (Reached owner space uid c.secrets →
      ∀ space' uid' d pod, Prepared i space' uid' d pod → CleansUp E i pod c r →
        ∀ place name s,
          ((E.operator.pass i).exec (c, r)).2.1.secrets.get? place name = some s →
            place = space ∧ IsSecondary i i.spec.bindings name) ∧
    (c.secrets.Named → PrunesSpare E i uid c r) ∧
    (i.spec.validate = .ok () → ∀ pod, ∀ b ∈ i.spec.bindings,
      let swept := (E.projector.projectAll i pod).run (c, r)
      b.name ∉ swept.1.2.applied →
        swept.2.1.secrets.get? space (secondaryName owner b.name) =
          c.secrets.get? space (secondaryName owner b.name)) := by
  refine ⟨?_, ?_, ?_⟩
  · intro reached space' uid' d pod prepared clean place name s there
    exact declared_of_reached same plain reached prepared clean there
  · intro named
    exact prunesSpare E (same.named ▸ plain) same.identified named r
  · intro valid pod b declared swept failed
    rw [← same.named, ← same.spaceOf_eq]
    exact secret_of_notMem E same.identified valid pod c r declared failed

/-- A binding is applied, and its secret goes with it once nothing is asked for any more. -/
theorem secrets_within_declared_passwordMounted :
    let E := Equipment.onePassword
    let bound := ((E.operator.pass passwordMounted).exec ({}, ())).2.1
    let idle : Instance := { passwordMounted with spec := {} }
    (bound.secrets.get? "prod" "nx-secondary-db").isSome = true ∧
      ∀ place name,
        ((E.operator.pass idle).exec (bound, ())).2.1.secrets.get? place name = none := by
  intro E bound idle
  refine ⟨by decide +kernel, fun place name => ?_⟩
  let pod : PodSpec := { containers := [{ name := "nuxeo", image := some "nuxeo:latest" }] }
  have same : passwordMounted.IsOf "nx" "prod" "u1" := ⟨rfl, rfl, rfl⟩
  have same' : idle.IsOf "nx" "prod" "u1" := ⟨rfl, rfl, rfl⟩
  have reached : Reached "nx" "prod" "u1" bound.secrets := .pass E same {} () .start
  have prepared : Prepared idle "prod" "u1" _ pod := ⟨by decide +kernel, rfl, rfl, rfl, rfl⟩
  have quiet : bound.faults = [] := by decide +kernel
  have declared := (secrets_within_declared same' (by decide) E bound ()).1 reached _ _ _ _ prepared
    (.inl quiet) place name
  refine Option.eq_none_iff_forall_ne_some.2 fun s there => ?_
  obtain ⟨_, b, hb, _⟩ := declared s there
  cases hb

end Operator

end ServiceBinding
