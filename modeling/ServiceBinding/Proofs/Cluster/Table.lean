import ServiceBinding.Cluster.Table

/-!
The theory of tables. An object put in its place or taken out of it leaves every other place
alone (`get?_put`, `get?_drop`), and every write of a client is one of the two. A table whose
objects know their names (`Named`) stays one under writes that keep names.
-/
namespace ServiceBinding.Cluster.Table
open Object
variable {α : Type}

/-! ### Places -/

theorem inSpace_put (t : Table α) (space name space' : String) (a : α) :
    (t.put space name a).inSpace space' =
      if space' = space then (t.inSpace space).insert name a else t.inSpace space' := by
  unfold inSpace put
  simp only [Dict.get?_insert]
  split <;> rfl

theorem get?_put (t : Table α) (space name space' name' : String) (a : α) :
    (t.put space name a).get? space' name' =
      if space' = space ∧ name' = name then some a else t.get? space' name' := by
  unfold get?
  rw [inSpace_put]
  by_cases hs : space' = space
  · subst hs
    simp [Dict.get?_insert]
  · simp [hs]

theorem inSpace_drop (t : Table α) (space name space' : String) :
    (t.drop space name).inSpace space' =
      if space' = space then (t.inSpace space).erase name else t.inSpace space' := by
  unfold inSpace drop
  simp only [Dict.get?_insert]
  split <;> rfl

theorem get?_drop (t : Table α) (space name space' name' : String) :
    (t.drop space name).get? space' name' =
      if space' = space ∧ name' = name then none else t.get? space' name' := by
  unfold get?
  rw [inSpace_drop]
  by_cases hs : space' = space
  · subst hs
    simp [Dict.get?_erase]
  · simp [hs]

@[simp] theorem get?_counted (t : Table α) (space name : String) :
    t.counted.get? space name = t.get? space name := rfl

/-- Deleting empties the place of a name and leaves every other place alone. -/
theorem get?_delete (t : Table α) (space name space' name' : String) :
    (t.delete space name).get? space' name' =
      if space' = space ∧ name' = name then none else t.get? space' name' := by
  unfold delete
  cases h : t.get? space name with
  | none =>
    by_cases hp : space' = space ∧ name' = name
    · rw [if_pos hp, hp.1, hp.2, h]
    · rw [if_neg hp]
  | some a => rw [get?_counted, get?_drop]

/-! ### All objects -/

/-- Whether every object of a table has a property, which may speak of its place. -/
def Each (P : String → String → α → Prop) (t : Table α) : Prop :=
  ∀ space name a, t.get? space name = some a → P space name a

section Each
variable {P : String → String → α → Prop} {t : Table α}

theorem Each.empty (P : String → String → α → Prop) : ({} : Table α).Each P := by
  rintro space name a ⟨⟩

theorem Each.put (h : t.Each P) {space name : String} {a : α} (ha : P space name a) :
    (t.put space name a).Each P := by
  intro space' name' b hb
  rw [get?_put] at hb
  split at hb
  · next hp =>
    cases hb
    rw [hp.1, hp.2]
    exact ha
  · exact h _ _ _ hb

theorem Each.delete (h : t.Each P) (space name : String) : (t.delete space name).Each P := by
  intro space' name' b hb
  rw [get?_delete] at hb
  split at hb
  · cases hb
  · exact h _ _ _ hb

end Each

/-! ### Writes -/

section Writes
variable [Resource α]

@[simp] theorem metadata_withVersion (a : α) (version : String) :
    Resource.metadata (withVersion a version) =
      { Resource.metadata a with resourceVersion := some version } :=
  Resource.metadata_withMetadata _ _

/-- A name that is free can be taken. -/
theorem create_of_absent {t : Table α} {space : String} {a : α}
    (absent : t.get? space (ownName a) = none) :
    t.create space a = .ok (t.put space (ownName a) (withVersion a "1")).counted := by
  unfold create
  rw [absent]

/-- An object can be replaced by one of its version. -/
theorem replace_of_version {t : Table α} {space name : String} {a found : α}
    (there : t.get? space name = some found) (same : version a = version found) :
    t.replace space name a =
      .ok (t.put space name (withVersion a (nextVersion (version found)))).counted := by
  unfold replace
  simp [there, same]

/-- A name that is taken cannot be taken again. -/
theorem create_of_taken {t : Table α} {space : String} {a other : α}
    (taken : t.get? space (ownName a) = some other) :
    t.create space a = .error (.api 409 "AlreadyExists" (ownName a ++ " already exists")) := by
  unfold create
  rw [taken]

theorem replace_of_absent {t : Table α} {space name : String} {a : α}
    (absent : t.get? space name = none) :
    t.replace space name a = .error (.api 404 "NotFound" (name ++ " not found")) := by
  unfold replace
  rw [absent]

/-- An object cannot be replaced by one of another version. -/
theorem replace_of_otherVersion {t : Table α} {space name : String} {a found : α}
    (there : t.get? space name = some found) (other : version a ≠ version found) :
    t.replace space name a = .error (.api 409 "Conflict" "resourceVersion mismatch") := by
  unfold replace
  simp only [there, if_pos other.symm]

theorem mem_select {t : Table α} {space selector : String} {a : α} :
    a ∈ t.select space selector ↔
      (∃ name, t.get? space name = some a) ∧
        isSelected (selectorPairs selector) (Resource.metadata a) = true := by
  unfold select get?
  rw [List.mem_filter, List.mem_map]
  refine and_congr_left' ⟨?_, ?_⟩
  · rintro ⟨e, he, rfl⟩
    exact ⟨e.1, Dict.get?_eq_some_iff.2 he⟩
  · rintro ⟨name, h⟩
    exact ⟨(name, a), Dict.get?_eq_some_iff.1 h, rfl⟩

/-! ### Names -/

/-- Every object is stored under the name in its metadata. -/
def Named (t : Table α) : Prop :=
  ∀ space name a, t.get? space name = some a → (Resource.metadata a).name = some name

theorem Named.displayName {t : Table α} (h : t.Named) {space name : String} {a : α}
    (there : t.get? space name = some a) : (Resource.metadata a).displayName = name := by
  rw [Meta.displayName, h space name a there]
  rfl

theorem Named.empty : ({} : Table α).Named := Each.empty _

theorem Named.put {t : Table α} (h : t.Named) {space name : String} {a : α}
    (ha : (Resource.metadata a).name = some name) : (t.put space name a).Named :=
  Each.put (P := fun _ name a => (Resource.metadata a).name = some name) h ha

end Writes

end ServiceBinding.Cluster.Table
