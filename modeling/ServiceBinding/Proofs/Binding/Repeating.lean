import ServiceBinding.Proofs.Binding.Keeping
import ServiceBinding.Proofs.Binding.Settling
import ServiceBinding.Proofs.Binding.Sweeping
import ServiceBinding.Proofs.Ownership

/-!
Sweeping twice. A binding that has been applied finds in its secondary secret what its plan has put
there, so it comes to the same draft again, whatever is drawn, and has nothing to write
(`Projected.idle`). The bindings of an instance do not touch each other's secrets, so a sweep
without failures can be made again with nothing but reads (`Swept.idle`).
-/
namespace ServiceBinding.Binding
open Cluster Convergence Crypto Object Projector
variable {ρ : Type} {faulty : Prop} {i : Instance} {uid : String} {before after : Table Secret}

/-! ### Bindings -/

section Projecting
variable {E : Equipment ρ} {b : Binding} {pod : PodSpec} {r r' : ρ}

/-- A binding comes to one draft at most. -/
theorem Drafted.unique {found : Option Secret} {uid' : String} {d d' : Draft} {r'' : ρ}
    (h : Drafted E i b found pod r uid d r') (h' : Drafted E i b found pod r uid' d' r'') :
    uid' = uid ∧ d' = d ∧ r'' = r' := by
  obtain ⟨hid, hexp, hchk, hread, hgather, happly⟩ := h
  obtain ⟨hid', hexp', hchk', hread', hgather', happly'⟩ := h'
  obtain ⟨expansion, refs, sources, plan, pod⟩ := d
  obtain ⟨expansion', refs', sources', plan', pod'⟩ := d'
  dsimp only at hexp hchk hread hgather happly hexp' hchk' hread' hgather' happly'
  cases hid.symm.trans hid'
  cases hexp.symm.trans hexp'
  cases hchk.symm.trans hchk'
  cases hread.symm.trans hread'
  cases hgather.symm.trans hgather'
  cases happly.symm.trans happly'
  exact ⟨rfl, rfl, rfl⟩

/-- A binding comes to the same draft again when its secret keeps the content of the plan. -/
theorem Drafted.again (small : E.reader.Small) {found found' : Option Secret} {d : Draft}
    (h : Drafted E i b found pod r uid d r') (kept : keptFrom uid found' = d.plan.content)
    (draws : String → Nat → Draw) :
    Drafted { E with draws := draws } i b found' pod r uid d r' := by
  refine ⟨h.identified, h.expanded, h.checked, h.read, ?_, h.applied⟩
  have hread := SourceReader.mem_readAll h.read
  rw [kept]
  refine Plan.gather_again ?_ ?_ h.gathered (.refl _) _
  · intro s hs
    obtain ⟨access, _, _, _, hsource⟩ := hread s hs
    exact small _ _ _ _ _ _ hsource
  · intro s hs
    obtain ⟨access, _, _, href, _⟩ := hread s hs
    exact validate_of_check h.checked _ href

/-- A binding that has been applied finds nothing to write when it is projected again. -/
theorem Projected.idle (small : E.reader.Small) {y : PodSpec × String} {verbs : List Verb}
    (h : Projected faulty E i b pod before r (.ok y) verbs after r') {u u' : Table Secret}
    (same : u.get? (spaceOf i) (secondaryName i.name b.name) =
      after.get? (spaceOf i) (secondaryName i.name b.name))
    {draws : String → Nat → Draw} {x : Result (PodSpec × String)} {verbs' : List Verb} {r'' : ρ}
    (h' : Projected False { E with draws := draws } i b pod u r x verbs' u' r'') :
    x = .ok y ∧ verbs' = [.get, .get] ∧ u' = u ∧ r'' = r' := by
  generalize hy : Except.ok y = z at h
  cases h with
  | refused => cases hy
  | stopped => cases hy
  | settled drafted hs =>
    obtain ⟨_, rfl, rfl⟩ := map_eq_ok.1 hy.symm
    have rested := hs.rested
    rw [← same] at rested
    have again := drafted.again small (rested.kept drafted.identified) draws
    cases h' with
    | refused e h => exact absurd again (h _ _ _)
    | stopped e r' h => exact absurd again (h.resolve_left id _ _ _)
    | settled drafted' hs' =>
      obtain ⟨rfl, rfl, rfl⟩ := again.unique drafted'
      obtain ⟨rfl, rfl, rfl⟩ := hs'.idle rested
      exact ⟨rfl, rfl, rfl, rfl⟩

end Projecting

/-! ### Sweeps -/

section Sweeping
variable {E : Equipment ρ} {p p' : Progress} {bs : List Binding} {log : List Call} {r r' : ρ}

/-- Failures are only added to. -/
theorem ProjectedEach.failed (h : ProjectedEach faulty E i p before r bs p' log after r') :
    ∃ more, p'.failed = p.failed ++ more := by
  induction h with
  | nil p => exact ⟨[], (List.append_nil _).symm⟩
  | @cons p _ _ _ _ _ _ _ b _ x _ _ _ _ ih =>
    obtain ⟨more, hmore⟩ := ih
    cases x with
    | ok => exact ⟨more, hmore⟩
    | error e =>
      exact ⟨(b.name, e) :: more, hmore.trans (List.append_assoc p.failed [(b.name, e)] more)⟩

/-- Bindings that have all been applied find nothing to write when they are projected again. -/
theorem ProjectedEach.idle (small : E.reader.Small) (identified : Workload.ownerUid i = .ok uid)
    (nodup : (bs.map (·.name)).Nodup)
    (h : ProjectedEach faulty E i p before r bs p' log after r') (flawless : p'.failed = [])
    {u u' : Table Secret}
    (same : ∀ b ∈ bs, u.get? (spaceOf i) (secondaryName i.name b.name) =
      after.get? (spaceOf i) (secondaryName i.name b.name))
    {draws : String → Nat → Draw} {q : Progress} {log' : List Call} {r'' : ρ}
    (h' : ProjectedEach False { E with draws := draws } i p u r bs q log' u' r'') :
    q = p' ∧ u' = u ∧ r'' = r' ∧ ∀ call ∈ log', call.verb = .get := by
  induction h generalizing u u' q log' r'' with
  | nil =>
    cases h'
    exact ⟨rfl, rfl, rfl, fun _ h => nomatch h⟩
  | @cons p p' t t₁ t' r r₁ r' b rest x verbs log first others ih =>
    rw [List.map_cons, List.nodup_cons] at nodup
    rw [List.forall_mem_cons] at same
    obtain ⟨more, hmore⟩ := others.failed
    rw [flawless] at hmore
    cases x with
    | error e =>
      have hnil : p.failed ++ [(b.name, e)] = [] := (List.append_eq_nil_iff.1 hmore.symm).1
      cases (List.append_eq_nil_iff.1 hnil).2
    | ok y =>
      -- The bindings that follow have left the secret of this one as it was.
      have hsame := same.1.trans ((others.upheld identified nodup.2).elsewhere (spaceOf i)
        (secondaryName i.name b.name) fun h => not_isSecondary nodup.1 h.2)
      cases h' with
      | cons first' others' =>
        obtain ⟨rfl, rfl, rfl, rfl⟩ := first.idle small hsame first'
        obtain ⟨rfl, rfl, rfl, hgets⟩ := ih nodup.2 flawless same.2 others'
        refine ⟨rfl, rfl, rfl, fun call hc => ?_⟩
        rcases List.mem_append.1 hc with hc | hc
        · exact hgets call hc
        · obtain ⟨verb, hv, rfl⟩ := List.mem_map.1 hc
          simpa [callOn] using hv

/-- Cleaning up that has succeeded leaves no leftovers. -/
theorem Pruned.leftovers_eq_nil (identified : Workload.ownerUid i = .ok uid)
    (named : before.Named) {names : List String}
    (h : Pruned faulty i before (.ok names) log after) : leftovers i uid after = [] := by
  cases h with
  | @deleted uid' identified' _ log _ h =>
    cases identified.symm.trans identified'
    refine List.eq_nil_iff_forall_not_mem.2 fun s hs => ?_
    have hget := (mem_leftovers (h.each named) hs).1
    -- A leftover that is still there was one before, and so has been deleted.
    have hbefore : s ∈ leftovers i uid before := by
      refine leftover_of_get? hs ?_
      rcases h.places (spaceOf i) s.metadata.displayName with he | ⟨_, s', hs', he⟩
      · exact he ▸ hget
      · rw [← he, h.cleared s' hs'] at hget
        cases hget
    cases hget.symm.trans (h.cleared s hbefore)

theorem Pruned.idle (identified : Workload.ownerUid i = .ok uid)
    (clean : leftovers i uid before = []) {x : Result (List String)}
    (h : Pruned False i before x log after) :
    x = .ok [] ∧ log = [listing i] ∧ after = before := by
  cases h with
  | unidentified h => cases identified.symm.trans h
  | struck h => exact h.elim
  | deleted identified' h =>
    cases identified.symm.trans identified'
    rw [clean] at h
    cases h
    exact ⟨rfl, rfl, rfl⟩

theorem failed_reportOf {pruned : Result (List String)} (h : (reportOf p pruned).failed = []) :
    p.failed = [] ∧ ∃ names, pruned = .ok names := by
  obtain ⟨hp, hpruned⟩ := List.append_eq_nil_iff.1 h
  cases pruned with
  | ok names => exact ⟨hp, names, rfl⟩
  | error e => cases hpruned

/-- A sweep without failures finds nothing to write when it is made again. -/
theorem Swept.idle (small : E.reader.Small) (identified : Workload.ownerUid i = .ok uid)
    (valid : i.spec.validate = .ok ()) (named : before.Named) {pod : PodSpec}
    {pruned : Result (List String)}
    (h : Swept faulty E i pod before r p pruned log after r')
    (flawless : (reportOf p pruned).failed = []) {draws : String → Nat → Draw} {q : Progress}
    {pruned' : Result (List String)} {log' : List Call} {u : Table Secret} {r'' : ρ}
    (h' : Swept False { E with draws := draws } i pod after r q pruned' log' u r'') :
    q = p ∧ pruned' = .ok [] ∧ u = after ∧ r'' = r' ∧
      ∀ call ∈ log', call.verb = .get ∨ call.verb = .list := by
  obtain ⟨mid, each, gone, rfl, heach, hgone⟩ := h.split
  obtain ⟨mid', each', gone', rfl, heach', hgone'⟩ := h'.split
  obtain ⟨hp, names, rfl⟩ := failed_reportOf flawless
  have hnamed := heach.named named
  have hspared := (hgone.upheld identified hnamed).elsewhere
  have hclean := hgone.leftovers_eq_nil identified hnamed
  obtain ⟨rfl, rfl, rfl, hgets⟩ := heach.idle small identified (InstanceSpec.nodup_names valid) hp
    (fun b hb => hspared _ _ fun h => h.2 ⟨b, hb, rfl⟩) heach'
  obtain ⟨rfl, rfl, rfl⟩ := hgone'.idle identified hclean
  refine ⟨rfl, rfl, rfl, rfl, fun call hc => ?_⟩
  rcases List.mem_append.1 hc with hc | hc
  · exact .inr (List.mem_singleton.1 hc ▸ rfl)
  · exact .inl (hgets call hc)

end Sweeping

end ServiceBinding.Binding
