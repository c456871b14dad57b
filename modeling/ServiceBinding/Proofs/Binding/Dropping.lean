import ServiceBinding.Proofs.Binding.Settling
import ServiceBinding.Proofs.Binding.Turns

/-!
What a sweep takes away. A key that is held before a sweep is gone after it in two cases only
(`Drops`): its secret is a leftover, or belongs to a binding that is applied and needs the key no
longer. Whether the deployment still shows the key plays no part in either.
-/
namespace ServiceBinding.Binding
open Cluster Convergence Crypto Object Projector
variable {ρ : Type}

/-- The keys of secrets that a sweep takes away, whoever shows them. -/
inductive Drops (E : Equipment ρ) (i : Instance) (uid : String) (pod : PodSpec) (c : Cluster)
    (r : ρ) : String → String → Prop
  /-- A secret of no declared binding is deleted. -/
  | removed {s : Secret} (leftover : s ∈ leftovers i uid c.secrets) (key : String) :
    Drops E i uid pod c r s.metadata.displayName key
  /-- The secret of a binding that is applied keeps no key that none of its projections needs, as
  its sources were read in its turn. -/
  | trimmed {earlier later : List Binding} {b : Binding}
      (split : i.spec.bindings = earlier ++ b :: later)
      (applied : b.name ∈ ((E.projector.projectAll i pod).run (c, r)).1.2.applied)
      {expansion : Expansion} (expanded : expand b E.settings.mountBase = .ok expansion)
      {refs : List (SourceRef × Access)} (checked : check E.catalog expansion.binding = .ok refs)
      {sources : List (SourceRef × Source)} {r' : ρ}
      (read : (E.reader.readAll (spaceOf i) refs).exec
        ((E.projector.projectEach i { pod := pod } earlier).run (c, r)).2.2 = (.ok sources, r'))
      {key : String} (unneeded : ∀ s ∈ sources, ∀ projection ∈ s.1.projections,
        ¬ Needs s.2 projection key) :
    Drops E i uid pod c r (secondaryName i.name b.name) key

/-! ### Secrets of declared bindings -/

section Declared
variable {E : Equipment ρ} {i : Instance} {uid : String} {pod : PodSpec} {b : Binding}
  {earlier later : List Binding}

/-- What becomes of the secret of a binding: it is settled with the plan made in the binding's turn,
or left as it was. -/
theorem secret_cases (identified : Workload.ownerUid i = .ok uid)
    (valid : i.spec.validate = .ok ()) (split : i.spec.bindings = earlier ++ b :: later)
    (c : Cluster) (r : ρ) :
    let swept := (E.projector.projectAll i pod).run (c, r)
    let turn := ((E.projector.projectEach i { pod := pod } earlier).run (c, r)).2.2
    let after := swept.2.1.secrets.get? (spaceOf i) (secondaryName i.name b.name)
    (b.name ∈ swept.1.2.applied ∧ ∃ found pod d r',
      Drafted E i b found pod turn uid d r' ∧ Rested i b.name uid d.plan.content after) ∨
    (b.name ∉ swept.1.2.applied ∧
      after = c.secrets.get? (spaceOf i) (secondaryName i.name b.name)) := by
  obtain ⟨p, _, t, turn, x, _, t', r', p', _, t'', last, y, _, c', hturn, each, first, each',
    pruned, hswept⟩ := run_projectAll_around E i pod split c r
  have nodup := InstanceSpec.nodup_names valid
  rw [split] at nodup
  obtain ⟨hearlier, hlater⟩ := apart_of_nodup nodup
  have happlied := mem_applied_iff nodup each each'
  rw [List.map_append, List.map_cons, List.nodup_append, List.nodup_cons] at nodup
  rw [hswept, hturn]
  dsimp only
  rw [pruned.declared (b := b) (by rw [split]; simp),
    each'.secret_eq identified nodup.2.1.2 hlater]
  cases x with
  | ok y =>
    obtain ⟨uid', d, drafted, _, _, settled⟩ := first.drafted
    cases identified.symm.trans drafted.identified
    exact .inl ⟨happlied.2 ⟨_, rfl⟩, _, _, d, r', drafted, settled.rested⟩
  | error e =>
    refine .inr ⟨fun h => ?_, ?_⟩
    · obtain ⟨_, ⟨⟩⟩ := happlied.1 h
    · rw [first.eq_of_error, each.secret_eq identified nodup.1 hearlier]

end Declared

/-! ### Sweeps -/

section Sweeps
variable {E : Equipment ρ} {i : Instance} {uid : String} {pod : PodSpec} {c : Cluster} {r : ρ}
  {name key : String}

/-- A key that is dropped is not held afterwards. -/
theorem Drops.gone (quiet : c.faults = []) (identified : Workload.ownerUid i = .ok uid)
    (valid : i.spec.validate = .ok ()) (named : c.secrets.Named)
    (h : Drops E i uid pod c r name key) (value : Bytes) :
    ¬ Holds uid (((E.projector.projectAll i pod).run (c, r)).2.1.secrets.get? (spaceOf i) name)
      key value := by
  cases h with
  | @removed s leftover =>
    obtain ⟨p, pruned, log, t, after, r', hrun, called, swept⟩ :=
      run_projectAll E i pod (fun h => h quiet : c.faults ≠ [] → False) r
    obtain ⟨mid, each, gone, rfl, heach, hgone⟩ := swept.split
    obtain rfl : after.secrets = t := called.table
    obtain ⟨hget, _, hfree⟩ := mem_leftovers named leftover
    -- The bindings work on declared secrets, so the leftover is still there when they are done.
    have hmid : mid.get? (spaceOf i) s.metadata.displayName = some s := by
      rw [(heach.upheld identified (InstanceSpec.nodup_names valid)).elsewhere _ _
        fun h => hfree h.2]
      exact hget
    rw [hrun]
    dsimp only
    rw [hgone.cleared identified s (leftover_of_get? leftover hmid)]
    rintro ⟨_, ⟨⟩, _⟩
  | @trimmed earlier later b split applied expansion expanded refs checked sources r' read _
      unneeded =>
    rcases secret_cases identified valid split c r with
      ⟨_, found, pod', d, r'', drafted, rested⟩ | ⟨h, _⟩
    · rw [rested.holds_iff identified]
      intro hkey
      obtain rfl := drafted.expansion_eq expanded
      obtain rfl := drafted.refs_eq expanded checked
      cases drafted.read.symm.trans read
      obtain ⟨s, hs, projection, hp, needs⟩ := drafted.needed hkey
      exact unneeded s hs projection hp needs
    · exact absurd applied h

/-- A key that is held and not dropped is still held afterwards. -/
theorem holds_of_not_drops (quiet : c.faults = []) (identified : Workload.ownerUid i = .ok uid)
    (valid : i.spec.validate = .ok ()) (named : c.secrets.Named) {value : Bytes}
    (held : Holds uid (c.secrets.get? (spaceOf i) name) key value)
    (h : ¬ Drops E i uid pod c r name key) :
    ∃ value, Holds uid
      (((E.projector.projectAll i pod).run (c, r)).2.1.secrets.get? (spaceOf i) name) key
      value := by
  by_cases hn : IsSecondary i i.spec.bindings name
  · obtain ⟨b, hb, rfl⟩ := hn
    obtain ⟨earlier, later, split⟩ := List.append_of_mem hb
    rcases secret_cases identified valid split c r with
      ⟨applied, found, pod', d, r', drafted, rested⟩ | ⟨_, same⟩
    · by_contra hgone
      refine h (.trimmed split applied drafted.expanded drafted.checked drafted.read ?_)
      intro s hs projection hp needs
      obtain ⟨value, hkey⟩ := Plan.put_of_gather drafted.gathered hs hp needs
      exact hgone ⟨value, (rested.holds_iff identified).2 hkey⟩
    · rw [same]
      exact ⟨value, held⟩
  · obtain ⟨p, pruned, log, t, after, r', hrun, called, swept⟩ :=
      run_projectAll E i pod (fun h => h quiet : c.faults ≠ [] → False) r
    obtain ⟨mid, each, gone, rfl, heach, hgone⟩ := swept.split
    obtain rfl : after.secrets = t := called.table
    have hmid := (heach.upheld identified (InstanceSpec.nodup_names valid)).elsewhere (spaceOf i)
      name fun h => hn h.2
    rw [hrun]
    rcases hgone.places name with he | ⟨uid', s, identified', hs, rfl⟩
    · rw [he, hmid]
      exact ⟨value, held⟩
    · cases identified.symm.trans identified'
      have hget := (mem_leftovers (heach.named named) hs).1
      exact absurd (.removed (leftover_of_get? hs (hmid ▸ hget)) key) h

end Sweeps

end ServiceBinding.Binding
