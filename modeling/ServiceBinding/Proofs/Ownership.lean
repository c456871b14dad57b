import ServiceBinding.Proofs.Instance.Naming
import ServiceBinding.Proofs.Passing

/-!
Passes keep their hands off what belongs to others. Every write of a pass is on an object that the
instance owns or, for a replacement, that nobody owns. One attempt is judged by the object it
found (`Ensured.upheld`, `Removed.upheld`); a pass is a sequence of attempts on different names,
so what each of them found is what was there before the pass (`Upheld.trans`).
-/
namespace ServiceBinding
open Binding Cluster Convergence Object
variable {ρ α : Type}

/-! ### Permitted calls -/

section Permission
variable [Stored α]

/-- Whether an object may be written by passes over the instance of this identity. -/
def IsFree (uid : String) (a : α) : Prop :=
  (Resource.metadata a).isOwnedBy uid = true ∨ (Resource.metadata a).ownerList = []

/-- What may become of a place: an object that was there is still the same, or was free, and one
that is gone was the owner's. -/
def Permitted (uid : String) (before after : Option α) : Prop :=
  ∀ a, before = some a →
    after = some a ∨ (Resource.metadata a).isOwnedBy uid = true ∨
      ((Resource.metadata a).ownerList = [] ∧ after.isSome = true)

/-- A call that is justified by the object at its place: deletions by one of the owner,
replacements by a free one. -/
def Justified (uid : String) (found : Option α) (verb : Verb) : Prop :=
  (verb = .delete → ∃ a, found = some a ∧ (Resource.metadata a).isOwnedBy uid = true) ∧
    (verb = .replace → ∃ a, found = some a ∧ IsFree uid a)

theorem justified_get (uid : String) (found : Option α) : Justified uid found .get :=
  ⟨nofun, nofun⟩

theorem justified_replace {uid : String} {found : Option α} {a : α} (there : found = some a)
    (free : (Resource.metadata a).ownerList = [] ∨ (Resource.metadata a).isOwnedBy uid = true) :
    Justified uid found .replace :=
  ⟨nofun, fun _ => ⟨a, there, free.symm⟩⟩

theorem justified_delete {uid : String} {found : Option α} {a : α} (there : found = some a)
    (owned : (Resource.metadata a).isOwnedBy uid = true) : Justified uid found .delete :=
  ⟨fun _ => ⟨a, there, owned⟩, nofun⟩

theorem justified_create (uid : String) (found : Option α) : Justified uid found .create :=
  ⟨nofun, nofun⟩

/-- What calls on some names of a namespace do to a table: no other place changes, what changes is
permitted, and every call is on one of the names and justified by what was there before. -/
structure Upheld (uid space : String) (names : String → Prop) (before after : Table α)
    (log : List Call) : Prop where
  elsewhere : ∀ space' name, ¬ (space' = space ∧ names name) →
    after.get? space' name = before.get? space' name
  here : ∀ name, names name → Permitted uid (before.get? space name) (after.get? space name)
  calls : ∀ call ∈ log, call.verb = .list ∨ ∃ name verb, names name ∧
    call = callOn α space name verb ∧ Justified uid (before.get? space name) verb

theorem Upheld.refl (uid space : String) (names : String → Prop) (t : Table α) :
    Upheld uid space names t t [] where
  elsewhere _ _ _ := rfl
  here _ _ _ h := .inl h
  calls _ h := by cases h

theorem Upheld.trans {uid space : String} {names names' : String → Prop}
    {before mid after : Table α} {log log' : List Call} (h : Upheld uid space names before mid log)
    (h' : Upheld uid space names' mid after log') (apart : ∀ name, names name → ¬ names' name) :
    Upheld uid space (fun name => names name ∨ names' name) before after (log' ++ log) where
  elsewhere space' name hn := by
    rw [h'.elsewhere space' name fun h => hn ⟨h.1, .inr h.2⟩,
      h.elsewhere space' name fun h => hn ⟨h.1, .inl h.2⟩]
  here name hn := by
    by_cases hm : names name
    · rw [h'.elsewhere space name fun h => apart name hm h.2]
      exact h.here name hm
    · rw [← h.elsewhere space name fun h => hm h.2]
      exact h'.here name (hn.resolve_left hm)
  calls call hc := by
    rcases List.mem_append.1 hc with hc | hc
    · rcases h'.calls call hc with hl | ⟨name, verb, hn, he, hj⟩
      · exact .inl hl
      · rw [h.elsewhere space name fun h => apart name h.2 hn] at hj
        exact .inr ⟨name, verb, .inr hn, he, hj⟩
    · rcases h.calls call hc with hl | ⟨name, verb, hn, he, hj⟩
      · exact .inl hl
      · exact .inr ⟨name, verb, .inl hn, he, hj⟩

/-! ### Attempts -/

/-- Calls on one name that leave the other places alone. -/
theorem upheld_of_place {uid space name : String} {before after : Table α} {verbs : List Verb}
    (elsewhere : ∀ space' name', ¬ (space' = space ∧ name' = name) →
      after.get? space' name' = before.get? space' name')
    (here : Permitted uid (before.get? space name) (after.get? space name))
    (calls : ∀ verb ∈ verbs, Justified uid (before.get? space name) verb) :
    Upheld uid space (· = name) before after (verbs.map (callOn α space name)) where
  elsewhere := elsewhere
  here _ h := h ▸ here
  calls call hc := by
    obtain ⟨verb, hv, rfl⟩ := List.mem_map.1 hc
    exact .inr ⟨name, verb, rfl, rfl, calls verb hv⟩

theorem upheld_of_unchanged {uid space name : String} {t : Table α} {verbs : List Verb}
    (calls : ∀ verb ∈ verbs, Justified uid (t.get? space name) verb) :
    Upheld uid space (· = name) t t (verbs.map (callOn α space name)) :=
  upheld_of_place (fun _ _ _ => rfl) (fun _ h => .inl h) calls

/-- Bringing an object of the owner to a wanted state upholds the rights of others. -/
theorem Convergence.Ensured.upheld {faulty : Prop} {compare : Comparer α}
    {space name uid : String} {wanted : α} {before after : Table α} {x : Result Outcome}
    {verbs : List Verb} (made : IsMadeFor (Resource.metadata wanted) uid)
    (h : Ensured faulty compare space name wanted before x verbs after) :
    Upheld uid space (· = name) before after (verbs.map (callOn α space name)) := by
  cases h with
  | struck _ e =>
    exact upheld_of_unchanged (by simp [justified_get])
  | refused there alien =>
    exact upheld_of_unchanged (by simp [justified_get])
  | unchanged there free equal =>
    exact upheld_of_unchanged (by simp [justified_get])
  | notCreated _ absent e =>
    exact upheld_of_unchanged (by simp [justified_get, justified_create])
  | notUpdated _ there free differs e =>
    have hj := justified_replace there ((conflicts_eq_false made).1 free)
    exact upheld_of_unchanged (by simp [justified_get, hj])
  | created absent =>
    refine upheld_of_place (fun _ _ h => ?_) (fun a ha => ?_)
      (by simp [justified_get, justified_create])
    · rw [get?_createdIn, if_neg h]
    · rw [absent] at ha
      cases ha
  | updated there free differs =>
    have hfree := (conflicts_eq_false made).1 free
    have hj := justified_replace there hfree
    refine upheld_of_place (fun _ _ h => ?_) (fun a ha => ?_) (by simp [justified_get, hj])
    · rw [get?_replacedIn, if_neg h]
    · cases there.symm.trans ha
      rw [get?_replacedIn, if_pos ⟨rfl, rfl⟩]
      exact .inr (hfree.symm.imp_right fun h => ⟨h, rfl⟩)

/-- Removing an object of the owner upholds the rights of others. -/
theorem Convergence.Removed.upheld {faulty : Prop} {space name uid : String}
    {before after : Table α} {x : Result Removal} {verbs : List Verb}
    (h : Removed faulty space name uid before x verbs after) :
    Upheld uid space (· = name) before after (verbs.map (callOn α space name)) := by
  cases h with
  | struck _ e => exact upheld_of_unchanged (by simp [justified_get])
  | absent absent => exact upheld_of_unchanged (by simp [justified_get])
  | notOwned there alien => exact upheld_of_unchanged (by simp [justified_get])
  | notDeleted _ there owned e =>
    have hj := justified_delete there owned
    exact upheld_of_unchanged (by simp [justified_get, hj])
  | deleted there owned =>
    have hj := justified_delete there owned
    refine upheld_of_place (fun _ _ h => ?_) (fun a ha => ?_) (by simp [justified_get, hj])
    · rw [Table.get?_delete, if_neg h]
    · cases there.symm.trans ha
      exact .inr (.inl owned)

end Permission

/-! ### Sweeps -/

section Sweeps
variable {faulty : Prop} {E : Equipment ρ} {i : Instance} {uid : String}
  {before after : Table Secret}

theorem Binding.Settled.upheld {binding : String} {content : Dict Bytes} {x : Result Unit}
    {verbs : List Verb} (identified : Workload.ownerUid i = .ok uid)
    (h : Settled faulty i binding uid content before x verbs after) :
    Upheld uid (spaceOf i) (· = secondaryName i.name binding) before after
      (verbs.map (callOn Secret (spaceOf i) (secondaryName i.name binding))) := by
  cases h with
  | removed _ h => exact h.upheld
  | unmade _ _ => exact upheld_of_unchanged (by simp)
  | ensured _ made h => exact h.upheld (secondarySecret_isMadeFor identified made)

theorem Binding.Projected.upheld {b : Binding} {pod : PodSpec} {r r' : ρ}
    {x : Result (PodSpec × String)} {verbs : List Verb}
    (identified : Workload.ownerUid i = .ok uid)
    (h : Projected faulty E i b pod before r x verbs after r') :
    Upheld uid (spaceOf i) (· = secondaryName i.name b.name) before after
      (verbs.map (callOn Secret (spaceOf i) (secondaryName i.name b.name))) := by
  cases h with
  | refused _ _ => exact upheld_of_unchanged (by simp)
  | stopped _ _ _ => exact upheld_of_unchanged (by simp [justified_get])
  | settled drafted h =>
    cases identified.symm.trans drafted.identified
    have hs := h.upheld identified
    refine ⟨hs.elsewhere, hs.here, fun call hc => ?_⟩
    rw [List.map_append] at hc
    rcases List.mem_append.1 hc with hc | hc
    · exact hs.calls call hc
    · exact .inr ⟨_, .get, rfl, List.mem_singleton.1 hc, justified_get _ _⟩

/-- The names of the secondary secrets of some bindings. -/
def IsSecondary (i : Instance) (bs : List Binding) (name : String) : Prop :=
  ∃ b ∈ bs, name = secondaryName i.name b.name

/-- Another binding with the same secret would have the same name. -/
theorem not_isSecondary {b : Binding} {rest : List Binding}
    (apart : b.name ∉ rest.map (·.name)) :
    ¬ IsSecondary i rest (secondaryName i.name b.name) := by
  rintro ⟨b', hb', he⟩
  exact apart (List.mem_map.2 ⟨b', hb', (secondaryName_inj.1 he).symm⟩)

theorem Binding.ProjectedEach.upheld {p p' : Projector.Progress} {bs : List Binding}
    {log : List Call} {r r' : ρ} (identified : Workload.ownerUid i = .ok uid)
    (nodup : (bs.map (·.name)).Nodup)
    (h : ProjectedEach faulty E i p before r bs p' log after r') :
    Upheld uid (spaceOf i) (IsSecondary i bs) before after log := by
  induction h with
  | nil p t r => exact Upheld.refl _ _ _ _
  | @cons _ _ _ _ _ _ _ _ b rest _ _ _ first others ih =>
    rw [List.map_cons, List.nodup_cons] at nodup
    have hnames : IsSecondary i (b :: rest) =
        fun name => name = secondaryName i.name b.name ∨ IsSecondary i rest name := by
      funext name
      simp [IsSecondary]
    rw [hnames]
    refine (first.upheld identified).trans (ih nodup.2) ?_
    rintro _ rfl
    exact not_isSecondary nodup.1

/-- Deleting some secrets changes no place but theirs, and empties those it changes. -/
theorem Binding.Deleted.places {space : String} {l : List Secret} {x : Result (List String)}
    {log : List Call} (h : Deleted faulty space before l x log after) (space' name : String) :
    after.get? space' name = before.get? space' name ∨
      space' = space ∧ ∃ s ∈ l, s.metadata.displayName = name := by
  induction h with
  | nil t => exact .inl rfl
  | struck _ e t s rest => exact .inl rfl
  | @cons t t' s rest x log others ih =>
    rw [Table.get?_delete] at ih
    by_cases hp : space' = space ∧ name = s.metadata.displayName
    · exact .inr ⟨hp.1, s, List.mem_cons_self, hp.2.symm⟩
    · rw [if_neg hp] at ih
      exact ih.imp_right fun ⟨hs, s', hs', hn⟩ => ⟨hs, s', List.mem_cons_of_mem _ hs', hn⟩

/-- Deleting leaves every place as it was, or empties it. -/
theorem Binding.Deleted.eq_or_none {space : String} {l : List Secret} {x : Result (List String)}
    {log : List Call} (h : Deleted faulty space before l x log after) (space' name : String) :
    after.get? space' name = before.get? space' name ∨ after.get? space' name = none := by
  induction h with
  | nil | struck => exact .inl rfl
  | cons _ ih =>
    rw [Table.get?_delete] at ih
    split at ih
    · exact .inr (ih.elim id id)
    · exact ih

theorem Binding.Deleted.calls {space : String} {l : List Secret} {x : Result (List String)}
    {log : List Call} (h : Deleted faulty space before l x log after) :
    ∀ call ∈ log, ∃ s ∈ l, call = callOn Secret space s.metadata.displayName .delete := by
  induction h with
  | nil t => intro _ h; cases h
  | struck _ e t s rest =>
    intro call h
    exact ⟨s, List.mem_cons_self, List.mem_singleton.1 h⟩
  | @cons t t' s rest x log others ih =>
    intro call h
    rcases List.mem_append.1 h with h | h
    · obtain ⟨s', hs', he⟩ := ih call h
      exact ⟨s', List.mem_cons_of_mem _ hs', he⟩
    · exact ⟨s, List.mem_cons_self, List.mem_singleton.1 h⟩

/-- Deleting that has succeeded has emptied the places of all secrets it was for. -/
theorem Binding.Deleted.cleared {space : String} {l : List Secret} {names : List String}
    {log : List Call} (h : Deleted faulty space before l (.ok names) log after) :
    ∀ s ∈ l, after.get? space s.metadata.displayName = none := by
  generalize hx : Except.ok names = x at h
  induction h generalizing names with
  | nil => exact fun _ h => nomatch h
  | struck => cases hx
  | @cons t t' s rest x log others ih =>
    obtain ⟨more, rfl, _⟩ := map_eq_ok.1 hx.symm
    refine List.forall_mem_cons.2 ⟨?_, ih rfl⟩
    -- It was deleted here, and deleting the others puts nothing back.
    rcases others.places space s.metadata.displayName with h | ⟨_, s', hs', he⟩
    · rw [h, Table.get?_delete, if_pos ⟨rfl, rfl⟩]
    · rw [← he]
      exact ih rfl s' hs'

/-- Deleting that no fault strikes succeeds. -/
theorem Binding.Deleted.exists_ok {space : String} {l : List Secret} {x : Result (List String)}
    {log : List Call} (h : Deleted False space before l x log after) : ∃ names, x = .ok names := by
  induction h with
  | nil => exact ⟨[], rfl⟩
  | struck h => exact h.elim
  | cons _ ih =>
    obtain ⟨names, rfl⟩ := ih
    exact ⟨_, rfl⟩

theorem Binding.isLeftover_iff {s : Secret} :
    Projector.isLeftover i uid s = true ↔
      ¬ IsSecondary i i.spec.bindings s.metadata.displayName ∧
        s.metadata.isOwnedBy uid = true := by
  unfold Projector.isLeftover
  rw [Bool.and_eq_true, Bool.not_eq_true', ← Bool.not_eq_true, List.contains_iff_mem,
    List.mem_map]
  refine and_congr_left' (not_congr ⟨?_, ?_⟩)
  · rintro ⟨b, hb, he⟩
    exact ⟨b, hb, he.symm⟩
  · rintro ⟨b, hb, he⟩
    exact ⟨b, hb, he.symm⟩

/-- A leftover is stored under its name, belongs to the owner, and is of no declared binding. -/
theorem Binding.mem_leftovers {t : Table Secret} (named : t.Named) {s : Secret}
    (h : s ∈ leftovers i uid t) :
    t.get? (spaceOf i) s.metadata.displayName = some s ∧ s.metadata.isOwnedBy uid = true ∧
      ¬ IsSecondary i i.spec.bindings s.metadata.displayName := by
  obtain ⟨hsel, hleft⟩ := List.mem_filter.1 h
  obtain ⟨⟨name, hget⟩, _⟩ := Table.mem_select.1 hsel
  have hname : s.metadata.displayName = name := named.displayName hget
  obtain ⟨hfree, howned⟩ := isLeftover_iff.1 hleft
  exact ⟨hname ▸ hget, howned, hfree⟩

/-- Cleaning up works on places that no declared binding has. -/
theorem Binding.Pruned.upheld {x : Result (List String)} {log : List Call}
    (identified : Workload.ownerUid i = .ok uid) (named : before.Named)
    (h : Pruned faulty i before x log after) :
    Upheld uid (spaceOf i) (fun name => ¬ IsSecondary i i.spec.bindings name) before after log := by
  have hlist : (listing i).verb = .list := rfl
  cases h with
  | unidentified h => exact Upheld.refl _ _ _ _
  | struck _ e =>
    exact ⟨fun _ _ _ => rfl, fun _ _ _ h => .inl h, fun call hc =>
      .inl (List.mem_singleton.1 hc ▸ hlist)⟩
  | @deleted uid' identified' _ log _ h =>
    cases identified.symm.trans identified'
    refine ⟨fun space' name hn => ?_, fun name _ a ha => ?_, fun call hc => ?_⟩
    · rcases h.places space' name with he | ⟨hs, s, hmem, rfl⟩
      · exact he
      · exact absurd ⟨hs, (mem_leftovers named hmem).2.2⟩ hn
    · rcases h.places (spaceOf i) name with he | ⟨_, s, hmem, rfl⟩
      · exact .inl (he.trans ha)
      · obtain ⟨hget, howned, _⟩ := mem_leftovers named hmem
        cases hget.symm.trans ha
        exact .inr (.inl howned)
    · rcases List.mem_append.1 hc with hc | hc
      · obtain ⟨s, hmem, rfl⟩ := h.calls call hc
        obtain ⟨hget, howned, hfree⟩ := mem_leftovers named hmem
        exact .inr ⟨_, .delete, hfree, rfl, justified_delete hget howned⟩
      · exact .inl (List.mem_singleton.1 hc ▸ hlist)

/-- Cleaning up changes the places of leftovers only. -/
theorem Binding.Pruned.places {x : Result (List String)} {log : List Call}
    (h : Pruned faulty i before x log after) (name : String) :
    after.get? (spaceOf i) name = before.get? (spaceOf i) name ∨
      ∃ uid s, Workload.ownerUid i = .ok uid ∧ s ∈ leftovers i uid before ∧
        s.metadata.displayName = name := by
  cases h with
  | unidentified | struck => exact .inl rfl
  | @deleted uid identified _ _ _ h =>
    rcases h.places (spaceOf i) name with he | ⟨_, s, hs, hname⟩
    · exact .inl he
    · exact .inr ⟨uid, s, identified, hs, hname⟩

/-- Cleaning up does not touch the secret of a declared binding, whatever is stored where. -/
theorem Binding.Pruned.declared {x : Result (List String)} {log : List Call}
    (h : Pruned faulty i before x log after) {b : Binding} (hb : b ∈ i.spec.bindings) :
    after.get? (spaceOf i) (secondaryName i.name b.name) =
      before.get? (spaceOf i) (secondaryName i.name b.name) := by
  refine (h.places _).resolve_right ?_
  rintro ⟨uid, s, _, hs, hname⟩
  have hfree := (isLeftover_iff.1 (List.mem_filter.1 hs).2).1
  exact hfree ⟨b, hb, hname⟩

/-- Cleaning up that no fault strikes empties the places of all leftovers. -/
theorem Binding.Pruned.cleared {x : Result (List String)} {log : List Call}
    (identified : Workload.ownerUid i = .ok uid) (h : Pruned False i before x log after) :
    ∀ s ∈ leftovers i uid before, after.get? (spaceOf i) s.metadata.displayName = none := by
  cases h with
  | unidentified h => cases identified.symm.trans h
  | struck h => exact h.elim
  | deleted identified' h =>
    cases identified.symm.trans identified'
    obtain ⟨names, rfl⟩ := h.exists_ok
    exact h.cleared

/-- Cleaning up that no fault strikes goes through. -/
theorem Binding.Pruned.exists_ok {x : Result (List String)} {log : List Call}
    (identified : Workload.ownerUid i = .ok uid) (h : Pruned False i before x log after) :
    ∃ names, x = .ok names := by
  cases h with
  | unidentified h => cases identified.symm.trans h
  | struck h => exact h.elim
  | deleted _ h => exact h.exists_ok

/-- Cleaning up leaves every place as it was, or has deleted a leftover there. -/
theorem Binding.Pruned.eq_or_leftover {x : Result (List String)} {log : List Call}
    (identified : Workload.ownerUid i = .ok uid) (named : before.Named)
    (h : Pruned faulty i before x log after) (space name : String) :
    after.get? space name = before.get? space name ∨
      after.get? space name = none ∧ space = spaceOf i ∧
        ∃ s ∈ leftovers i uid before, before.get? space name = some s := by
  cases h with
  | unidentified | struck => exact .inl rfl
  | deleted identified' h =>
    cases identified.symm.trans identified'
    rcases h.places space name with he | ⟨rfl, s, hs, rfl⟩
    · exact .inl he
    · exact (h.eq_or_none _ _).imp_right fun gone =>
        ⟨gone, rfl, s, hs, (mem_leftovers named hs).1⟩

theorem Binding.Swept.upheld {pod : PodSpec} {r r' : ρ} {p : Projector.Progress}
    {pruned : Result (List String)} {log : List Call}
    (identified : Workload.ownerUid i = .ok uid) (valid : i.spec.validate = .ok ())
    (named : before.Named) (h : Swept faulty E i pod before r p pruned log after r') :
    ∃ names, Upheld uid (spaceOf i) names before after log := by
  obtain ⟨mid, each, gone, rfl, heach, hgone⟩ := h.split
  have hall := heach.upheld identified (InstanceSpec.nodup_names valid)
  have hrest := hgone.upheld identified (heach.named named)
  exact ⟨_, hall.trans hrest fun _ h hn => hn h⟩

end Sweeps

/-! ### Passes -/

section Passes
variable [Stored α]

/-- What a pass owes to the owners of the objects of one kind, by the tables before and after it
and by the calls it made. -/
structure Respected (uid : String) (before after : Table α) (log : List Call) : Prop where
  /-- What belongs to others alone stays as it is. -/
  spared : ∀ space name a, before.get? space name = some a →
    (Resource.metadata a).ownerList ≠ [] → (Resource.metadata a).isOwnedBy uid = false →
      after.get? space name = some a
  /-- What is gone was the owner's. -/
  gone : ∀ space name a, before.get? space name = some a → after.get? space name = none →
    (Resource.metadata a).isOwnedBy uid = true
  /-- What has changed was the owner's or nobody's. -/
  changed : ∀ space name a b, before.get? space name = some a → after.get? space name = some b →
    b ≠ a → IsFree uid a
  /-- What was asked to be deleted was there before, and the owner's. -/
  deletions : ∀ call ∈ log, call.kind = Resource.kind α → call.verb = .delete →
    ∃ a, before.get? call.space call.name = some a ∧ (Resource.metadata a).isOwnedBy uid = true
  /-- What was asked to be replaced was there before, and the owner's or nobody's. -/
  replacements : ∀ call ∈ log, call.kind = Resource.kind α → call.verb = .replace →
    ∃ a, before.get? call.space call.name = some a ∧ IsFree uid a

theorem Upheld.permitted {uid space : String} {names : String → Prop} {before after : Table α}
    {log : List Call} (h : Upheld uid space names before after log) (space' name : String) :
    Permitted uid (before.get? space' name) (after.get? space' name) := by
  by_cases hp : space' = space ∧ names name
  · rw [hp.1]
    exact h.here name hp.2
  · rw [h.elsewhere space' name hp]
    exact fun _ ha => .inl ha

/-- Calls on other kinds of objects and listings owe nothing. -/
theorem Upheld.respected {uid space : String} {names : String → Prop} {before after : Table α}
    {log more : List Call} (h : Upheld uid space names before after log)
    (others : ∀ call ∈ more, call ∈ log ∨ call.verb = .list ∨ call.kind ≠ Resource.kind α) :
    Respected uid before after more where
  spared space' name a ha howners hnot := by
    rcases h.permitted space' name a ha with he | ho | ⟨hn, _⟩
    · exact he
    · rw [hnot] at ho
      cases ho
    · exact absurd hn howners
  gone space' name a ha hgone := by
    rcases h.permitted space' name a ha with he | ho | ⟨_, hs⟩
    · rw [hgone] at he
      cases he
    · exact ho
    · rw [hgone] at hs
      cases hs
  changed space' name a b ha hb hne := by
    rcases h.permitted space' name a ha with he | ho | ⟨hn, _⟩
    · exact absurd (Option.some.inj (hb.symm.trans he)) hne
    · exact .inl ho
    · exact .inr hn
  deletions call hc hkind hverb := by
    rcases others call hc with hc | hl | hk
    · rcases h.calls call hc with hl | ⟨name, verb, _, rfl, hj⟩
      · cases hverb.symm.trans hl
      · exact hj.1 hverb
    · cases hverb.symm.trans hl
    · exact absurd hkind hk
  replacements call hc hkind hverb := by
    rcases others call hc with hc | hl | hk
    · rcases h.calls call hc with hl | ⟨name, verb, _, rfl, hj⟩
      · cases hverb.symm.trans hl
      · exact hj.2 hverb
    · cases hverb.symm.trans hl
    · exact absurd hkind hk

/-- The calls of an upheld stretch are of one kind, but for listings. -/
theorem Upheld.kind {uid space : String} {names : String → Prop} {before after : Table α}
    {log : List Call} (h : Upheld uid space names before after log) {call : Call}
    (hc : call ∈ log) : call.verb = .list ∨ call.kind = Resource.kind α := by
  rcases h.calls call hc with hl | ⟨name, verb, _, rfl, _⟩
  · exact .inl hl
  · exact .inr rfl

end Passes

theorem Operator.ConfSettled.upheld {faulty : Prop} {i : Instance} {space uid text : String}
    {pod : PodSpec} {before after : Table ConfigMap} {x : Result PodSpec} {verbs : List Verb}
    (identified : Workload.ownerUid i = .ok uid)
    (h : ConfSettled faulty i space uid text pod before x verbs after) :
    Upheld uid space (· = Workload.confName i) before after
      (verbs.map (callOn ConfigMap space (Workload.confName i))) := by
  cases h with
  | removed _ h => exact h.upheld
  | unmade _ _ => exact upheld_of_unchanged (by simp)
  | ensured _ made h => exact h.upheld (Workload.bindingConf_isMadeFor identified made)

/-- Passes work on each kind of objects in one stretch, so what the three stretches uphold is what
a pass owes. -/
theorem respected_of_stretches {uid : String} {s s' : Table Secret} {m m' : Table ConfigMap}
    {d d' : Table Deployment} {spaceS spaceC spaceD : String}
    {namesS namesC namesD : String → Prop} {logS logC logD : List Call}
    (hS : Upheld uid spaceS namesS s s' logS) (hC : Upheld uid spaceC namesC m m' logC)
    (hD : Upheld uid spaceD namesD d d' logD) :
    Respected uid s s' (logD ++ (logC ++ logS)) ∧ Respected uid m m' (logD ++ (logC ++ logS)) ∧
      Respected uid d d' (logD ++ (logC ++ logS)) := by
  have differ : ∀ {call : Call} {kind other : String},
      call.verb = .list ∨ call.kind = kind → kind ≠ other →
        call.verb = .list ∨ call.kind ≠ other := by
    rintro call kind other (h | rfl) hne
    · exact .inl h
    · exact .inr hne
  refine ⟨hS.respected fun call h => ?_, hC.respected fun call h => ?_,
    hD.respected fun call h => ?_⟩
  all_goals rw [List.mem_append, List.mem_append] at h
  · rcases h with h | h | h
    · exact .inr (differ (hD.kind h) (by decide))
    · exact .inr (differ (hC.kind h) (by decide))
    · exact .inl h
  · rcases h with h | h | h
    · exact .inr (differ (hD.kind h) (by decide))
    · exact .inl h
    · exact .inr (differ (hS.kind h) (by decide))
  · rcases h with h | h | h
    · exact .inl h
    · exact .inr (differ (hC.kind h) (by decide))
    · exact .inr (differ (hS.kind h) (by decide))

/-- A pass over an instance, however it ends, leaves alone what belongs to others: objects with
other owners stay as they are, only objects of the instance are deleted, and only objects of the
instance or of nobody are replaced. -/
theorem Operator.pass_respects_owners (E : Equipment ρ) (i : Instance) (uid : String)
    (identity : i.metadata.uid = some uid) (c : Cluster) (named : c.secrets.Named) (r : ρ) :
    let after := ((E.operator.pass i).exec (c, r)).2.1
    ∃ log, after.calls = log ++ c.calls ∧ Respected uid c.secrets after.secrets log ∧
      Respected uid c.configMaps after.configMaps log ∧
      Respected uid c.deployments after.deployments log := by
  have identified := Workload.ownerUid_eq_ok.2 identity
  obtain ⟨x, after, r', hx, hpassed⟩ := exec_pass E i (fun _ => trivial : c.faults ≠ [] → True) r
  rw [hx]
  show ∃ log, after.calls = log ++ c.calls ∧ Respected uid c.secrets after.secrets log ∧
    Respected uid c.configMaps after.configMaps log ∧
    Respected uid c.deployments after.deployments log
  -- A stretch that has not been reached has made no calls.
  have nothing : ∀ {α : Type} [Stored α] (t : Table α),
      Upheld uid (spaceOf i) (fun _ => False) t t [] := fun t => Upheld.refl _ _ _ t
  cases hpassed with
  | refused e _ =>
    exact ⟨_, rfl, respected_of_stretches (nothing _) (nothing _) (nothing _)⟩
  | @swept space uid' d pod prepared p pruned log t mid _ _ swept called _ _ finished =>
    obtain ⟨names, hS⟩ := swept.upheld identified prepared.valid named
    obtain rfl : mid.secrets = t := called.table
    obtain ⟨hc, hd⟩ := called.rest_secret
    cases identified.symm.trans prepared.identified
    cases finished with
    | halted _ =>
      rw [hc, hd]
      exact ⟨log, called.calls, respected_of_stretches hS (nothing _) (nothing _)⟩
    | @unconfigured _ _ verbs u _ conf called' =>
      obtain rfl : after.configMaps = u := called'.table
      have hC := conf.upheld identified
      obtain ⟨hs', hd'⟩ := called'.rest_configMap
      rw [hc] at hC
      rw [hd', hd, hs']
      refine ⟨_, ?_, respected_of_stretches hS hC (nothing _)⟩
      rw [called'.calls, called.calls, List.nil_append, List.append_assoc]
    | @deployed _ pod' verbs verbs' u mid' _ conf called' _ v ensured called'' =>
      obtain rfl : mid'.configMaps = u := called'.table
      obtain rfl : after.deployments = v := called''.table
      have hC := conf.upheld identified
      have hD := ensured.upheld (prepared.isMadeFor pod')
      obtain ⟨hs', hd'⟩ := called'.rest_configMap
      obtain ⟨hs'', hc''⟩ := called''.rest_deployment
      rw [hc] at hC
      rw [hd', hd] at hD
      rw [hs'', hs', hc'']
      refine ⟨_, ?_, respected_of_stretches hS hC hD⟩
      rw [called''.calls, called'.calls, called.calls, List.append_assoc, List.append_assoc]

/-- A secret that looks like a leftover of the instance, but belongs to another one. -/
def foreignLeftover : Secret :=
  { metadata := {
      name := some "nx-secondary-old"
      space := some "prod"
      labels := some (.ofList [
        (Workload.instanceLabel, "nx"), (Workload.componentLabel, secondaryComponent)])
      owners := some [⟨"appzygy.net/v1alpha1", "Nuxeo", "other", "u2", some true, none⟩] } }

theorem Operator.pass_respects_owners_foreignLeftover :
    let E := Equipment.standard .uniform
    let i : Instance :=
      { metadata := { name := some "nx", space := some "prod", uid := some "u1" }, spec := {} }
    let c : Cluster :=
      { secrets := Table.put {} "prod" "nx-secondary-old" foreignLeftover }
    i.metadata.uid = some "u1" ∧ c.secrets.Named ∧
      ((E.operator.pass i).exec (c, .ok .null)).2.1.secrets.get? "prod" "nx-secondary-old" =
        some foreignLeftover := by
  intro E i c
  have named : c.secrets.Named := Table.Named.empty.put rfl
  obtain ⟨log, _, respected, _⟩ := pass_respects_owners E i "u1" rfl c named (.ok .null)
  exact ⟨rfl, named, respected.spared _ _ _ rfl (by decide) rfl⟩

end ServiceBinding
