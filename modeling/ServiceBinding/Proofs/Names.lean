import ServiceBinding.Proofs.Binding.Given
import ServiceBinding.Proofs.Binding.Refusing
import ServiceBinding.Proofs.Binding.Settling
import ServiceBinding.Proofs.Workload.Naming

/-!
The names that bindings bring. Whatever a binding asks for and whatever its sources hold, each key
that it writes and each path that it adds can be used, and each variable has a name, unless the
binding exposes one under the empty name, which no check refuses (`names_of_project`).
-/
namespace ServiceBinding
open Binding Cluster Convergence Crypto Object Workload
variable {ρ : Type}

/-- Whether a text can be a key of a secret: letters, digits, and `-`, `.`, `_`, at least one. -/
def UsableKey (key : String) : Prop :=
  key ≠ "" ∧ ∀ ch ∈ key.toList, ch.isAlphanum = true ∨ ch = '-' ∨ ch = '.' ∨ ch = '_'

/-- Whether a text can be the name of a file in a directory. -/
def UsableFile (name : String) : Prop := UsableKey name ∧ name ≠ "." ∧ name ≠ ".."

namespace Binding

/-! ### Checks -/

theorem isAsciiAlphanumeric_iff (ch : Char) :
    Text.isAsciiAlphanumeric ch = true ↔ ch.isAlphanum = true := by
  unfold Text.isAsciiAlphanumeric Char.isAlphanum Char.isAlpha Char.isUpper Char.isLower
    Char.isDigit
  simp only [Bool.or_eq_true, Bool.and_eq_true, decide_eq_true_eq, Char.le_def, ge_iff_le]
  exact or_congr_left or_comm

theorem isSecretKey_iff {key : String} : isSecretKey key = true ↔ UsableKey key := by
  unfold isSecretKey UsableKey Path.isKeyChar
  simp [List.all_eq_true, isAsciiAlphanumeric_iff, or_assoc]

theorem usable_of_checkFileName {name : String} (h : checkFileName name = .ok ()) :
    UsableFile name := by
  refine ⟨isSecretKey_iff.1 (isSecretKey_of_checkFileName h), ?_⟩
  obtain ⟨⟨⟩, -, h⟩ := bind_eq_ok.1 h
  split at h
  · cases h
  · next hdots => exact not_or.1 hdots

/-! ### Plans -/

namespace Plan
variable {P : Primitives} {kept : Dict Bytes} {plan : Plan} {binding mountBase name : String}
  {templates : List String} {pod pod' : PodSpec} {item : Item}

/-- The names of the variables that a plan and some templates give. -/
def variableNames (plan : Plan) (templates : List String) : List String :=
  plan.env.map (·.name) ++ templates.map fun _ => templatesVariable

theorem mem_names_equip {c c' : Container}
    (h : (plan.equip binding mountBase templates c).toResult = .ok c') :
    name ∈ c'.variableNames ↔ name ∈ c.variableNames ∨ name ∈ plan.variableNames templates := by
  obtain ⟨mounted, exposed, hmounted, hexposed, h⟩ := steps_of_equip h
  have hnames : mounted.variableNames = c.variableNames := by
    rcases hmounted with ⟨-, rfl⟩ | ⟨-, hmounted⟩
    · rfl
    · exact names_addMount hmounted
  rw [mem_names_forEach_mergeEnv (.plain templatesVariable) h,
    mem_names_forEach_mergeEnv id hexposed, hnames, or_assoc, variableNames, List.mem_append]
  rfl

/-- A pod that a plan has been applied to has just the variables it had and those of the plan. -/
theorem mem_names_apply (h : plan.apply binding mountBase templates pod = .ok pod') :
    name ∈ pod'.variableNames ↔ name ∈ pod.variableNames ∨ name ∈ plan.variableNames templates := by
  unfold apply at h
  rw [Merged.toResult_andThen, bind_eq_ok] at h
  obtain ⟨mid, hmid, h⟩ := h
  obtain ⟨before, c, after, c', hcontainers, hc', rfl⟩ := exists_of_inServer h
  rw [containers_of_forEach_addVolume hmid] at hcontainers
  unfold Object.PodSpec.variableNames
  rw [hcontainers]
  simp only [List.flatMap_append, List.flatMap_cons, List.mem_append, mem_names_equip hc']
  tauto

/-- All items of such a pod were there, or are those of the plan. -/
theorem mem_items_apply (h : plan.apply binding mountBase templates pod = .ok pod')
    (hi : item ∈ pod'.items) : item ∈ pod.items ∨ item ∈ plan.items := by
  unfold apply at h
  rw [Merged.toResult_andThen, bind_eq_ok] at h
  obtain ⟨mid, hmid, h⟩ := h
  unfold Object.PodSpec.items at hi
  rw [volumes_of_inServer h] at hi
  refine Merged.forEach_induction (R := fun before mid => item ∈ mid.items →
    item ∈ pod.items ∨ item ∈ before) .inl ?_ hmid hi
  intro before added mid mid' _ ih hstep hi
  have single : (plan.itemVolume binding added).SingleSourced :=
    List.forall_mem_singleton.2 (.inr rfl)
  rw [List.mem_append, ← or_assoc]
  exact (mem_items_addVolume single hstep hi).imp_left ih

theorem Realized.paths {r : Draw} {source : Source} {p p' : Plan} {projection : Projection}
    (h : Realized P kept r source p projection p') (hi : item ∈ p'.items) : item ∈ p.items ∨
      projection.mount = some item.path ∨
        ∃ t, projection.transform = some t ∧ t.store = item.path := by
  cases h with
  | store transforms h =>
    obtain ⟨_, _, _, _, _, _, _, _, _, _, rfl⟩ := addStore_eq_ok.1 h
    rcases List.mem_append.1 hi with hi | hi
    · exact .inl hi
    · rw [List.mem_singleton.1 hi]
      exact .inr (.inr ⟨_, transforms, rfl⟩)
  | literal | reference | derived => exact .inl hi
  | file _ _ _ mounts =>
    rcases List.mem_append.1 hi with hi | hi
    · exact .inl hi
    · rw [List.mem_singleton.1 hi]
      exact .inr (.inl mounts)

end Plan

/-! ### Drafts -/

section Drafts
variable {E : Equipment ρ} {i : Instance} {b : Binding} {found : Option Secret}
  {pod pod' : PodSpec} {r r' : ρ} {uid : String} {d : Draft}

theorem Drafted.checked_projection (h : Drafted E i b found pod r uid d r')
    {s : SourceRef × Source} (hs : s ∈ d.sources) {p : Projection} (hp : p ∈ s.1.projections) :
    checkProjection p = .ok () := by
  have hmem : s.1 ∈ d.refs.map (·.1) := by
    rw [← SourceReader.map_fst_readAll h.read]
    exact List.mem_map_of_mem hs
  obtain ⟨ref, href, hsame⟩ := List.mem_map.1 hmem
  rw [← hsame] at hp
  exact (of_checkSource (checkSource_of_check h.checked ref href)).1 p hp

/-- Every key of a draft's content can be used. -/
theorem Drafted.usable_key (h : Drafted E i b found pod r uid d r') {key : String} {value : Bytes}
    (hk : d.plan.content.get? key = some value) : UsableKey key := by
  obtain ⟨s, hs, p, hp, needs⟩ := h.needed hk
  exact isSecretKey_iff.1 (isSecretKey_of_needs (h.checked_projection hs hp) needs)

/-- Every path of a draft's files can be used. -/
theorem Drafted.usable_item (h : Drafted E i b found pod r uid d r') {item : Item}
    (hi : item ∈ d.plan.items) : UsableKey item.key ∧ UsableFile item.path := by
  constructor
  · obtain ⟨value, hk⟩ := Plan.backed_of_gather (.empty _) h.gathered item hi
    exact h.usable_key hk
  · refine Plan.kept_of_gather (motive := fun q => item ∈ q.items → UsableFile item.path)
      (fun s hs p hp draw q q' hreal ih hi => ?_) h.gathered (fun hi => nomatch hi) hi
    obtain ⟨hmount, hstore⟩ := names_of_checkProjection (h.checked_projection hs hp)
    rcases hreal.paths hi with hi | mounts | ⟨t, transforms, he⟩
    · exact ih hi
    · exact usable_of_checkFileName (hmount _ mounts)
    · exact he ▸ usable_of_checkFileName (hstore t transforms).1

/-- A binding that can be drafted gives a variable under the empty name just if one of its own
projections asks for it: presets name theirs, and passwords without a variable are refused. -/
theorem Drafted.empty_mem_variableNames (h : Drafted E i b found pod r uid d r') :
    "" ∈ b.variableNames E.settings.mountBase ↔
      ∃ s ∈ b.sources, ∃ p ∈ s.projections, p.env = some "" := by
  obtain ⟨generated, hsources, hnames⟩ := sources_of_expand h.expanded
  have valid : ∀ s ∈ b.sources, ∀ p ∈ s.projections, p.validate = .ok () := by
    intro s hs
    have hmem : s ∈ d.refs.map (·.1) := by
      rw [map_fst_check h.checked, hsources]
      exact List.mem_append_right _ hs
    obtain ⟨ref, href, rfl⟩ := List.mem_map.1 hmem
    exact validate_of_check h.checked ref href
  have hname : ∀ s ∈ b.sources, ∀ p ∈ s.projections,
      (p.variableName? = some "" ↔ p.env = some "") := by
    intro s hs p hp
    unfold Projection.variableName?
    cases ht : p.transform with
    | none => rfl
    | some t =>
      obtain ⟨-, -, -, named, -⟩ := StoreTransform.validate_eq_ok.1
        (Projection.transform_of_validate (valid s hs p hp) ht)
      refine iff_of_false (fun he => named (Option.some.inj he)) fun he => ?_
      obtain ⟨-, hnone⟩ := Projection.transform_of_env (valid s hs p hp) (by rw [he]; rfl)
      cases ht.symm.trans hnone
  have htemplate : "" ∉ d.expansion.templates.map fun _ => templatesVariable := by
    intro hmem
    obtain ⟨_, -, he⟩ := List.mem_map.1 hmem
    exact absurd he (by decide)
  unfold Binding.variableNames
  rw [h.expanded]
  dsimp only
  rw [List.mem_append, or_iff_left htemplate, List.mem_filterMap, hsources]
  constructor
  · rintro ⟨p, hp, he⟩
    obtain ⟨s, hs, hp⟩ := List.mem_flatMap.1 hp
    rcases List.mem_append.1 hs with hs | hs
    · exact absurd (hnames s hs p hp _ he) (by decide)
    · exact ⟨s, hs, p, hp, (hname s hs p hp).1 he⟩
  · rintro ⟨s, hs, p, hp, he⟩
    exact ⟨p, List.mem_flatMap.2 ⟨s, List.mem_append_right _ hs, hp⟩, (hname s hs p hp).2 he⟩

end Drafts

/-! ### Secrets -/

/-- Whether all keys of a secret can be used. -/
def UsableKeys (a : Secret) : Prop :=
  ∀ key value, (a.data.getD {}).get? key = some value → UsableKey key

/-- A secret that agrees with a secondary secret has the keys of its content. -/
theorem usableKeys_of_equal {i : Instance} {binding : String} {content : Dict Bytes}
    {wanted a : Secret} (usable : ∀ key value, content.get? key = some value → UsableKey key)
    (made : secondarySecret i binding content = .ok wanted)
    (equal : compareSecret wanted a = .equal) : UsableKeys a := by
  obtain ⟨-, hdata, -⟩ := compareSecret_eq_equal.1 equal
  unfold sameContent at hdata
  rw [beq_iff_eq, secondarySecret_data made, Option.getD_some] at hdata
  unfold UsableKeys
  rw [← hdata]
  exact usable

/-- Secrets whose keys can be used are all that is stored of content whose keys can be used. -/
theorem keeps_usableKeys {i : Instance} {binding space name : String} {content : Dict Bytes}
    {wanted : Secret} (usable : ∀ key value, content.get? key = some value → UsableKey key)
    (made : secondarySecret i binding content = .ok wanted) (before : Table Secret) :
    Keeps compareSecret space name wanted
      fun space name a => before.get? space name = some a ∨ UsableKeys a where
  created version :=
    .inr (usableKeys_of_equal usable made (converges_compareSecret.created wanted version))
  updated found updated version differs _ := .inr (usableKeys_of_equal usable made
    (converges_compareSecret.updated wanted found updated version differs))

/-- **What bindings bring can be used.** Whatever a binding asks for and whatever was read and kept,
if it is applied then all items of the pod were there before or have keys and paths that can be
used, and all secrets are as they were or have keys that can be used. The pod has a variable under
the empty name just if it had one, or a projection that is declared asks for that name. -/
theorem Projector.names_of_project {E : Equipment ρ} {i : Instance} {b : Binding}
    {pod pod' : PodSpec} {conf : String} {c c' : Cluster} {r r' : ρ}
    (h : (E.projector.project i b pod).exec (c, r) = (.ok (pod', conf), (c', r'))) :
    ("" ∈ pod'.variableNames ↔
        "" ∈ pod.variableNames ∨ ∃ s ∈ b.sources, ∃ p ∈ s.projections, p.env = some "") ∧
      (∀ item ∈ pod'.items, item ∈ pod.items ∨ UsableKey item.key ∧ UsableFile item.path) ∧
      ∀ space name stored, c'.secrets.get? space name = some stored →
        c.secrets.get? space name = some stored ∨ UsableKeys stored := by
  obtain ⟨x, verbs, t, after, r'', hx, called, projected⟩ :=
    exec_project E i b pod (c := c) (fun _ => trivial) r
  cases h.symm.trans hx
  obtain ⟨uid, d, drafted, rfl, _, settled⟩ := projected.drafted
  obtain rfl : c'.secrets = t := called.table
  refine ⟨?_, fun item hi => ?_, ?_⟩
  · rw [Plan.mem_names_apply drafted.applied, Plan.variableNames, drafted.variableNames,
      drafted.empty_mem_variableNames]
  · exact (Plan.mem_items_apply drafted.applied hi).imp_right drafted.usable_item
  · exact settled.each (fun _ made =>
      keeps_usableKeys (fun _ _ => drafted.usable_key) made c.secrets) fun _ _ _ => .inl

/-- A binding that shows the password of a secret as a file, and as a variable of some name. -/
def passwordExposed (env : String) : Binding where
  name := "db"
  sources := [{
    version := "v1"
    kind := "Secret"
    name := "creds"
    projections := [
      { source := some "password", mount := some "password" },
      { source := some "password", env := some env }] }]

theorem Projector.names_of_project_passwordExposed :
    let E := Equipment.onePassword
    let b := passwordExposed "DB_PASSWORD"
    let pod : PodSpec := { containers := [{ name := "nuxeo" }] }
    ∃ pod' conf c' r', (E.projector.project passwordMounted b pod).exec ({}, ()) =
        (.ok (pod', conf), (c', r')) ∧
      ("" ∈ pod'.variableNames ↔
        "" ∈ pod.variableNames ∨ ∃ s ∈ b.sources, ∃ p ∈ s.projections, p.env = some "") ∧
      (∀ item ∈ pod'.items, item ∈ pod.items ∨ UsableKey item.key ∧ UsableFile item.path) ∧
      ∀ space name stored, c'.secrets.get? space name = some stored →
        ({} : Table Secret).get? space name = some stored ∨ UsableKeys stored := by
  intro E b pod
  have applied : ((E.projector.project passwordMounted b pod).exec ({}, ())).1.isOk = true := by
    decide +kernel
  rcases hx : (E.projector.project passwordMounted b pod).exec ({}, ()) with
    ⟨e | ⟨pod', conf⟩, c', r'⟩
  · rw [hx] at applied
    cases applied
  · exact ⟨pod', conf, c', r', rfl, names_of_project hx⟩

/-- Under the empty name a variable is let into the pod. -/
theorem Projector.not_named_passwordExposed :
    let E := Equipment.onePassword
    let b := passwordExposed ""
    let pod : PodSpec := { containers := [{ name := "nuxeo" }] }
    let x := (E.projector.project passwordMounted b pod).exec ({}, ())
    (check E.catalog b).isOk = true ∧ pod.variableNames = [] ∧
      x.1.toOption.map (·.1.variableNames) = some [""] := by
  decide +kernel

end Binding
end ServiceBinding
