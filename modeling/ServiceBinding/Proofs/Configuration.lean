import ServiceBinding.Proofs.Delivery

/-!
The configuration text next to the bindings. It is mounted as a volume of its own, whose name is
also that of the volume of a binding called `conf`. After a sweep such a binding is in the way just
if it has been applied and shows files (`IsConfTaken`); then the text cannot be mounted, and in
every other case it can, whatever the bindings are.
-/
namespace ServiceBinding
open Binding Cluster Convergence Crypto Object Workload
variable {ρ : Type}

/-! ### Files of a binding -/

/-- Whether a projection reaches the pod as a file: a value's, or a key store's. -/
def Projection.ShowsFile (p : Projection) : Prop :=
  p.mount.isSome = true ∨ p.transform.isSome = true

/-- Whether a binding shows files, by projections of its own or of its preset. -/
def Binding.ShowsFiles (mountBase : String) (b : Binding) : Prop :=
  ∃ expansion, expand b mountBase = .ok expansion ∧
    ∃ s ∈ expansion.binding.sources, ∃ projection ∈ s.projections, projection.ShowsFile

namespace Binding

theorem Plan.Realized.showsFile {P : Primitives} {kept : Dict Bytes} {draw : Draw}
    {source : Source} {p p' : Plan} {projection : Projection}
    (h : Realized P kept draw source p projection p') :
    p'.items = p.items ∨ projection.ShowsFile := by
  cases h with
  | store transforms => exact .inr (.inr (by rw [transforms]; rfl))
  | literal | reference | derived => exact .inl rfl
  | file _ _ _ mounts => exact .inr (.inl (by rw [mounts]; rfl))

theorem Plan.Realized.items_ne_nil {P : Primitives} {kept : Dict Bytes} {draw : Draw}
    {source : Source} {p p' : Plan} {projection : Projection}
    (h : Realized P kept draw source p projection p') (valid : projection.validate = .ok ())
    (shows : projection.ShowsFile) : p'.items ≠ [] := by
  -- A variable is all that its projection gives.
  have hidden : ∀ env, projection.env = some env → False := by
    intro env he
    obtain ⟨hm, ht⟩ := Projection.transform_of_env valid (by rw [he]; rfl)
    rcases shows with h | h
    · rw [hm] at h
      cases h
    · rw [ht] at h
      cases h
  cases h with
  | store _ h =>
    obtain ⟨_, _, _, _, _, _, _, _, _, _, rfl⟩ := addStore_eq_ok.1 h
    exact List.append_ne_nil_of_right_ne_nil _ (List.cons_ne_nil _ _)
  | literal _ _ he | reference _ _ he | derived _ _ he => exact (hidden _ he).elim
  | file => exact List.append_ne_nil_of_right_ne_nil _ (List.cons_ne_nil _ _)

/-- The plan of a binding has files just if some projection shows one. -/
theorem Drafted.items_ne_nil_iff {E : Equipment ρ} {i : Instance} {b : Binding}
    {found : Option Secret} {pod : PodSpec} {r r' : ρ} {uid : String} {d : Draft}
    (h : Drafted E i b found pod r uid d r') :
    d.plan.items ≠ [] ↔ b.ShowsFiles E.settings.mountBase := by
  have hsources : d.sources.map (·.1) = d.expansion.binding.sources := by
    rw [SourceReader.map_fst_readAll h.read, map_fst_check h.checked]
  constructor
  · refine Plan.kept_of_gather (motive := fun q => q.items ≠ [] → b.ShowsFiles
      E.settings.mountBase) (fun s hs projection hp draw q q' hreal ih hitems => ?_) h.gathered
      (fun hitems => absurd rfl hitems)
    rcases hreal.showsFile with hsame | hshows
    · exact ih (hsame ▸ hitems)
    · exact ⟨d.expansion, h.expanded, s.1, hsources ▸ List.mem_map_of_mem hs, projection, hp,
        hshows⟩
  · rintro ⟨expansion, hexp, ref, href, projection, hp, hshows⟩ hitems
    rw [← h.expansion_eq hexp, ← hsources] at href
    obtain ⟨s, hs, rfl⟩ := List.mem_map.1 href
    obtain ⟨_, q, q', _, hreal, hgrows⟩ := Plan.realized_of_gather h.gathered s hs projection hp
    have hne := hreal.items_ne_nil (h.valid_of_mem hs hp) hshows
    exact hne (List.subset_nil.1 (hitems ▸ hgrows.items))

end Binding

/-! ### After a sweep -/

section Sweeps
variable (E : Equipment ρ) {i : Instance} (valid : i.spec.validate = .ok ()) {d : Deployment}
  {pod : PodSpec} (built : Workload.deployment i = .ok d) (podded : Workload.podSpec d = .ok pod)
  (c : Cluster) (r : ρ)
include valid built podded

/-- The pod at the end of a sweep knows nothing of a binding that is not declared. -/
theorem fresh_of_undeclared {b : Binding} (undeclared : b.name ∉ i.spec.bindings.map (·.name)) :
    let swept := (E.projector.projectAll i pod).run (c, r)
    ∃ k, Fitted swept.1.1 k ∧ Fresh b.name swept.1.1 k := by
  obtain ⟨p, _, _, _, _, _, hswept, _, ⟨_, _, _, _, each, _⟩⟩ :=
    run_projectAll E i pod (c := c) (fun _ => trivial) r
  rw [hswept]
  obtain ⟨k, fitted, _, fresh⟩ := fitted_of_deployment built podded
  obtain ⟨k', fitted', kept⟩ :=
    each.fitted (InstanceSpec.nodup_names valid) fitted fun b _ => fresh b.name
  exact ⟨k', fitted', kept.fresh undeclared (fresh b.name)⟩

/-- The pod at the end of a sweep has the volume of a declared binding just if the binding has been
applied and shows files; else it knows nothing of the binding. -/
theorem fresh_or_shown {b : Binding} (declared : b ∈ i.spec.bindings) :
    let swept := (E.projector.projectAll i pod).run (c, r)
    let shows := b.name ∈ swept.1.2.applied ∧ b.ShowsFiles E.settings.mountBase
    ∃ k, Fitted swept.1.1 k ∧ (¬ shows → Fresh b.name swept.1.1 k) ∧
      (shows → ∃ secondary items, volume? swept.1.1 (volumeName b.name) =
        some (filesVolume secondary b.name items)) := by
  obtain ⟨earlier, later, split⟩ := List.append_of_mem declared
  obtain ⟨p, _, _, _, x, _, _, _, p', _, _, _, y, _, _, _, each, turn, each', _, hswept⟩ :=
    run_projectAll_around E i pod split c r
  rw [hswept]
  have nodup := InstanceSpec.nodup_names valid
  rw [split] at nodup
  have happlied := mem_applied_iff nodup each each'
  obtain ⟨hearlier, hlater⟩ := apart_of_nodup nodup
  rw [List.map_append, List.map_cons, List.nodup_append, List.nodup_cons] at nodup
  obtain ⟨hnodup, ⟨_, hnodup'⟩, hapart⟩ := nodup
  obtain ⟨k, fitted, _, fresh⟩ := fitted_of_deployment built podded
  obtain ⟨k₁, fitted₁, kept₁⟩ := each.fitted hnodup fitted fun b _ => fresh b.name
  have fresh₁ : Fresh b.name p.pod k₁ := kept₁.fresh hearlier (fresh b.name)
  have rest₁ : ∀ b' ∈ later, Fresh b'.name p.pod k₁ := by
    refine fun b' hb' => kept₁.fresh (fun h => ?_) (fresh b'.name)
    exact hapart _ h _ (List.mem_cons_of_mem _ (List.mem_map_of_mem hb')) rfl
  cases x with
  | error e =>
    obtain ⟨k', fitted', kept'⟩ := each'.fitted (p := p.after b (.error e)) hnodup' fitted₁ rest₁
    refine ⟨k', fitted', fun _ => kept'.fresh hlater fresh₁, fun shows => ?_⟩
    obtain ⟨_, h⟩ := happlied.1 shows.1
    cases h
  | ok z =>
    obtain ⟨pod₂, conf⟩ := z
    obtain ⟨uid, draft, drafted, rfl, _⟩ := turn.drafted
    obtain ⟨k₂, applied⟩ := Plan.applied_of_apply fitted₁ fresh₁ drafted.applied
    obtain ⟨k', fitted', kept'⟩ := each'.fitted (c := k₂) hnodup' applied.fitted
      (applied.keeps.fresh_rest hlater rest₁)
    have hitems := drafted.items_ne_nil_iff
    refine ⟨k', fitted', fun hidden => kept'.fresh hlater (applied.hidden ?_), fun shows => ?_⟩
    · by_contra hne
      exact hidden ⟨happlied.2 ⟨_, rfl⟩, hitems.1 hne⟩
    · obtain ⟨shown, hvolume, _⟩ := applied.shown (hitems.2 shows.2)
      exact ⟨_, shown, (kept'.elsewhere _ (volumeName_notMem hlater)).1.trans hvolume⟩

end Sweeps

/-! ### The volume of the text -/

/-- The name of the binding whose volume is named like that of the configuration text. -/
def confBinding : String := "conf"

theorem volumeName_eq_confVolume {name : String} :
    volumeName name = confVolume ↔ name = confBinding :=
  Binding.volumeName_inj (b := confBinding)

/-- The text can be mounted next to bindings that leave its volume's name alone. -/
theorem exists_mountConf {i : Instance} {pod : PodSpec} {k : Container} (fitted : Fitted pod k)
    (fresh : Fresh confBinding pod k) : ∃ pod', (mountConf i pod).toResult = .ok pod' := by
  have hvolume : volume? pod confVolume = none := fresh.volume
  have hmount : mount? k confVolume = none := fresh.mount
  have alone (volumes : Option (List Volume)) :
      ({ pod with volumes := volumes } : PodSpec).containers = [k] := fitted.alone
  unfold mountConf
  dsimp only
  rw [addVolume_of_free hvolume, Merged.toResult_andThen]
  show ∃ pod', (inServer { pod with volumes := _ } _).toResult = .ok pod'
  rw [inServer_of_alone (alone _) fitted.server, addMount_of_free hmount]
  exact ⟨_, rfl⟩

/-- The error of a text whose volume's name is taken by files. -/
def confTakenError : Error :=
  .configuration "volume binding-conf"
    "already defined with a projected source, cannot merge a configMap source"

/-- The text cannot be mounted next to files under its volume's name. -/
theorem mountConf_of_filesVolume {i : Instance} {pod : PodSpec} {secondary : String}
    {items : List Item}
    (taken : volume? pod confVolume = some (filesVolume secondary confBinding items)) :
    (mountConf i pod).toResult = .error confTakenError := by
  unfold mountConf addVolume
  dsimp only
  rw [show (pod.volumes.getD []).find? (·.name == confVolume) = _ from taken]
  rfl

/-- Whether a binding takes the name of the text's volume: it is called so, has been applied, and
shows files. -/
def IsConfTaken (E : Equipment ρ) (i : Instance) (report : Report) : Prop :=
  ∃ b ∈ i.spec.bindings, b.name = confBinding ∧ b.name ∈ report.applied ∧
    b.ShowsFiles E.settings.mountBase

/-- **The text is mounted unless its name is taken**: whatever valid bindings are declared, whatever
the reader answers and whatever is stored, the configuration text can be mounted on the pod at the
end of a sweep just if no applied binding called `conf` shows files. If one does, mounting fails
for the whole instance with the error of the name. -/
theorem mountConf_projectAll (E : Equipment ρ) (i : Instance) (valid : i.spec.validate = .ok ())
    (d : Deployment) (pod : PodSpec) (built : Workload.deployment i = .ok d)
    (podded : Workload.podSpec d = .ok pod) (c : Cluster) (r : ρ) :
    let swept := (E.projector.projectAll i pod).run (c, r)
    ((∃ pod', (mountConf i swept.1.1).toResult = .ok pod') ↔ ¬ IsConfTaken E i swept.1.2) ∧
      (IsConfTaken E i swept.1.2 → (mountConf i swept.1.1).toResult = .error confTakenError) ∧
        ∀ b ∈ i.spec.bindings, volumeName b.name = confVolume ↔ b.name = confBinding := by
  intro swept
  have hfails : IsConfTaken E i swept.1.2 →
      (mountConf i swept.1.1).toResult = .error confTakenError := by
    rintro ⟨b, declared, named, shows⟩
    obtain ⟨_, _, _, hshown⟩ := fresh_or_shown E valid built podded c r declared
    obtain ⟨secondary, items, hvolume⟩ := hshown shows
    rw [named] at hvolume
    exact mountConf_of_filesVolume hvolume
  have hmounts : ¬ IsConfTaken E i swept.1.2 →
      ∃ pod', (mountConf i swept.1.1).toResult = .ok pod' := by
    intro free
    by_cases declared : confBinding ∈ i.spec.bindings.map (·.name)
    · obtain ⟨b, hb, named⟩ := List.mem_map.1 declared
      obtain ⟨k, fitted, hfresh, _⟩ := fresh_or_shown E valid built podded c r hb
      have fresh := hfresh fun shows => free ⟨b, hb, named, shows⟩
      rw [named] at fresh
      exact exists_mountConf fitted fresh
    · obtain ⟨k, fitted, fresh⟩ :=
        fresh_of_undeclared E (b := { name := confBinding }) valid built podded c r declared
      exact exists_mountConf fitted fresh
  refine ⟨⟨fun ⟨pod', h⟩ taken => ?_, hmounts⟩, hfails, fun b _ => volumeName_eq_confVolume⟩
  cases h.symm.trans (hfails taken)

/-- An instance with one binding, which is called `conf`, has a text, and mounts a password. -/
def confNamed : Instance :=
  { passwordMounted with
    spec := { bindings := passwordMounted.spec.bindings.map fun b =>
      { b with name := confBinding, conf := "a=b" } } }

theorem mountConf_projectAll_confNamed :
    ∃ d pod, confNamed.spec.validate = .ok () ∧ Workload.deployment confNamed = .ok d ∧
      Workload.podSpec d = .ok pod ∧
        let E := Equipment.onePassword
        let swept := (E.projector.projectAll confNamed pod).run ({}, ())
        ((∃ pod', (mountConf confNamed swept.1.1).toResult = .ok pod') ↔
          ¬ IsConfTaken E confNamed swept.1.2) ∧
        (IsConfTaken E confNamed swept.1.2 →
          (mountConf confNamed swept.1.1).toResult = .error confTakenError) ∧
        ∀ b ∈ confNamed.spec.bindings, volumeName b.name = confVolume ↔ b.name = confBinding := by
  have valid : confNamed.spec.validate = .ok () := by decide +kernel
  exact ⟨_, _, valid, rfl, rfl, mountConf_projectAll _ _ valid _ _ rfl rfl _ _⟩

/-- The pass has written the text when it fails, and does not come to the deployment. -/
theorem not_mountConf_confNamed :
    confNamed.spec.validate = .ok () ∧ volumeName confBinding = confVolume ∧
      (∃ d pod, Workload.deployment confNamed = .ok d ∧ Workload.podSpec d = .ok pod ∧
        (mountConf confNamed ((Equipment.onePassword.projector.projectAll confNamed
          pod).run ({}, ())).1.1).toResult = .error confTakenError) ∧
      let after := (Equipment.onePassword.operator.pass confNamed).exec ({}, ())
      after.1 = .error confTakenError ∧
        (after.2.1.configMaps.get? "prod" "nx-binding-conf").isSome = true ∧
          (after.2.1.deployments.get? "prod" "nx").isNone = true := by
  refine ⟨by decide +kernel, rfl, ⟨_, _, rfl, rfl, ?_⟩, ?_, ?_, ?_⟩
  all_goals decide +kernel

end ServiceBinding
