import ServiceBinding.Convergence.Basic
import ServiceBinding.Proofs.Cluster.Calls
import ServiceBinding.Proofs.Convergence.Comparing

/-!
What an attempt to bring an object to a wanted state (`Ensured`), or to remove it (`Removed`), can
come to on the in-memory cluster: its result, the calls it made and the table it left. An attempt
writes at most once, and last, so one that fails has changed nothing. What is proved about
passes follows from these cases alone.
-/
namespace ServiceBinding.Convergence
open Cluster Object
variable {ρ α : Type} [Stored α]

/-- The table once an object has been stored for the first time. -/
def createdIn (t : Table α) (space name : String) (a : α) : Table α :=
  (t.put space name (Table.withVersion a "1")).counted

/-- The table once an object has been stored in place of another one. -/
def replacedIn (t : Table α) (space name : String) (found a : α) : Table α :=
  (t.put space name
    (Table.withVersion a (Table.nextVersion (Table.version found)))).counted

theorem get?_createdIn (t : Table α) (space name space' name' : String) (a : α) :
    (createdIn t space name a).get? space' name' =
      if space' = space ∧ name' = name then some (Table.withVersion a "1")
      else t.get? space' name' := by
  rw [createdIn, Table.get?_counted, Table.get?_put]

theorem get?_replacedIn (t : Table α) (space name space' name' : String) (found a : α) :
    (replacedIn t space name found a).get? space' name' =
      if space' = space ∧ name' = name
      then some (Table.withVersion a (Table.nextVersion (Table.version found)))
      else t.get? space' name' := by
  rw [replacedIn, Table.get?_counted, Table.get?_put]

/-- The ways in which an attempt to bring an object to a wanted state can end: result, calls and
table, by the table before it. Calls may be struck if the cluster is `faulty`. -/
inductive Ensured (faulty : Prop) (compare : Comparer α) (space name : String) (wanted : α)
    (before : Table α) : Result Outcome → List Verb → Table α → Prop
  | struck (h : faulty) (e : Error) :
    Ensured faulty compare space name wanted before (.error e) [.get] before
  | refused {found : α} (there : before.get? space name = some found)
      (alien : conflicts (Resource.metadata wanted) (Resource.metadata found) = true) :
    Ensured faulty compare space name wanted before
      (.error (.ownershipConflict (Resource.kind α) space name)) [.get] before
  | created (absent : before.get? space name = none) :
    Ensured faulty compare space name wanted before (.ok .created) [.create, .get]
      (createdIn before space name wanted)
  | notCreated (h : faulty) (absent : before.get? space name = none) (e : Error) :
    Ensured faulty compare space name wanted before (.error e) [.create, .get] before
  | unchanged {found : α} (there : before.get? space name = some found)
      (free : conflicts (Resource.metadata wanted) (Resource.metadata found) = false)
      (equal : compare wanted found = .equal) :
    Ensured faulty compare space name wanted before (.ok .unchanged) [.get] before
  | updated {found updated : α} (there : before.get? space name = some found)
      (free : conflicts (Resource.metadata wanted) (Resource.metadata found) = false)
      (differs : compare wanted found = .differs updated) :
    Ensured faulty compare space name wanted before (.ok .updated) [.replace, .get]
      (replacedIn before space name found updated)
  | notUpdated {found updated : α} (h : faulty) (there : before.get? space name = some found)
      (free : conflicts (Resource.metadata wanted) (Resource.metadata found) = false)
      (differs : compare wanted found = .differs updated) (e : Error) :
    Ensured faulty compare space name wanted before (.error e) [.replace, .get] before

/-- The ways in which an attempt to remove an object can end. -/
inductive Removed (faulty : Prop) (space name uid : String) (before : Table α) :
    Result Removal → List Verb → Table α → Prop
  | struck (h : faulty) (e : Error) :
    Removed faulty space name uid before (.error e) [.get] before
  | absent (absent : before.get? space name = none) :
    Removed faulty space name uid before (.ok .absent) [.get] before
  | notOwned {found : α} (there : before.get? space name = some found)
      (alien : (Resource.metadata found).isOwnedBy uid = false) :
    Removed faulty space name uid before (.ok .notOwned) [.get] before
  | deleted {found : α} (there : before.get? space name = some found)
      (owned : (Resource.metadata found).isOwnedBy uid = true) :
    Removed faulty space name uid before (.ok .deleted) [.delete, .get]
      (before.delete space name)
  | notDeleted {found : α} (h : faulty) (there : before.get? space name = some found)
      (owned : (Resource.metadata found).isOwnedBy uid = true) (e : Error) :
    Removed faulty space name uid before (.error e) [.delete, .get] before

/-! ### Failures -/

/-- An attempt that has failed has written nothing. -/
theorem Ensured.eq_of_error {faulty : Prop} {compare : Comparer α} {space name : String}
    {wanted : α} {before after : Table α} {e : Error} {verbs : List Verb}
    (h : Ensured faulty compare space name wanted before (.error e) verbs after) :
    after = before := by
  cases h <;> rfl

theorem Removed.eq_of_error {faulty : Prop} {space name uid : String} {before after : Table α}
    {e : Error} {verbs : List Verb}
    (h : Removed faulty space name uid before (.error e) verbs after) : after = before := by
  cases h <;> rfl

/-! ### Presence -/

/-- An attempt that has gone through leaves an object under the name. -/
theorem Ensured.stored {faulty : Prop} {compare : Comparer α} {space name : String} {wanted : α}
    {before after : Table α} {o : Outcome} {verbs : List Verb}
    (h : Ensured faulty compare space name wanted before (.ok o) verbs after) :
    ∃ a, after.get? space name = some a := by
  cases h with
  | created => exact ⟨_, by rw [get?_createdIn, if_pos ⟨rfl, rfl⟩]⟩
  | unchanged there => exact ⟨_, there⟩
  | updated => exact ⟨_, by rw [get?_replacedIn, if_pos ⟨rfl, rfl⟩]⟩

/-- Bringing an object to a wanted state takes none away. -/
theorem Ensured.present {faulty : Prop} {compare : Comparer α} {space name : String} {wanted : α}
    {before after : Table α} {x : Result Outcome} {verbs : List Verb}
    (h : Ensured faulty compare space name wanted before x verbs after) {space' name' : String}
    {a : α} (there : before.get? space' name' = some a) :
    ∃ b, after.get? space' name' = some b := by
  cases h with
  | created =>
    rw [get?_createdIn]
    split
    · exact ⟨_, rfl⟩
    · exact ⟨a, there⟩
  | updated =>
    rw [get?_replacedIn]
    split
    · exact ⟨_, rfl⟩
    · exact ⟨a, there⟩
  | _ => exact ⟨a, there⟩

/-! ### All objects -/

section Each
variable {P : String → String → α → Prop} {compare : Comparer α} {space name : String}
  {wanted : α}

/-- Whether storing a wanted object keeps a property of all objects of a table: it has the property
when it is new, and so has what it makes of an object that had it. -/
structure Keeps (compare : Comparer α) (space name : String) (wanted : α)
    (P : String → String → α → Prop) : Prop where
  created : ∀ version, P space name (Table.withVersion wanted version)
  updated : ∀ found updated version, compare wanted found = .differs updated →
    P space name found → P space name (Table.withVersion updated version)

theorem Ensured.each {faulty : Prop} {before after : Table α} {x : Result Outcome}
    {verbs : List Verb} (h : Ensured faulty compare space name wanted before x verbs after)
    (keeps : Keeps compare space name wanted P) (hb : before.Each P) : after.Each P := by
  cases h with
  | created => exact hb.put (keeps.created _)
  | updated there _ differs => exact hb.put (keeps.updated _ _ _ differs (hb _ _ _ there))
  | _ => exact hb

theorem Removed.each {faulty : Prop} {uid : String} {before after : Table α}
    {x : Result Removal} {verbs : List Verb}
    (h : Removed faulty space name uid before x verbs after) (hb : before.Each P) :
    after.Each P := by
  cases h with
  | deleted => exact hb.delete space name
  | _ => exact hb

/-- Objects stored under the name in their metadata stay so. -/
theorem keeps_named (applies : Applies compare)
    (named : (Resource.metadata wanted).name = some name) :
    Keeps compare space name wanted
      fun _ name a => (Resource.metadata a).name = some name where
  created version := by
    rw [Table.metadata_withVersion]
    exact named
  updated found updated version differs hfound := by
    rw [Table.metadata_withVersion, applies _ _ _ differs]
    exact hfound

end Each

/-! ### Running -/

variable [LawfulStored α]

/-- An attempt to bring an object to a wanted state makes calls on its name only, and ends in one
of the ways of `Ensured`. -/
theorem exec_ensure {compare : Comparer α} (applies : Applies compare) (space : String)
    {name : String} {wanted : α} (named : (Resource.metadata wanted).name = some name)
    {c : Cluster} {faulty : Prop} (hf : c.faults ≠ [] → faulty) (r : ρ) :
    ∃ x verbs t after,
      (ensure (store α).onLeft compare space name wanted).exec (c, r) = (x, (after, r)) ∧
        Called c (verbs.map (callOn α space name)) t after ∧
          Ensured faulty compare space name wanted (Stored.table c) x verbs t := by
  have hget := (Called.refl (α := α) c).noted (callOn α space name .get)
  have hown : Table.ownName wanted = name := by
    unfold Table.ownName
    rw [named]
    rfl
  unfold ensure
  rw [Action.exec_bind, exec_get]
  cases hs : c.struck? (callOn α space name .get) with
  | some e => exact ⟨_, [.get], _, _, rfl, hget, .struck (hf (faults_of_struck hs)) e⟩
  | none =>
    -- A fault that is found from here on was to come from the start.
    have hf : ∀ {call e}, (c.noted (callOn α space name .get)).struck? call = some e → faulty :=
      fun h => hf (faults_of_noted (faults_of_struck h))
    cases there : (Stored.table c : Table α).get? space name with
    | none =>
      have hcreate : (Stored.table (c.noted (callOn α space name .get)) : Table α).create space
          wanted = .ok (createdIn (Stored.table c) space name wanted) := by
        rw [table_noted, Table.create_of_absent (by rw [hown]; exact there), hown]
        rfl
      simp only [Action.exec_bind, exec_create hcreate, hown]
      cases hs : (c.noted (callOn α space name .get)).struck? (callOn α space name .create) with
      | some e => exact ⟨_, [.create, .get], _, _, rfl, hget.noted _, .notCreated (hf hs) there e⟩
      | none => exact ⟨_, [.create, .get], _, _, rfl, (hget.noted _).written _, .created there⟩
    | some found =>
      dsimp only
      cases free : conflicts (Resource.metadata wanted) (Resource.metadata found) with
      | true => exact ⟨_, [.get], _, _, rfl, hget, .refused there free⟩
      | false =>
        cases differs : compare wanted found with
        | equal => exact ⟨_, [.get], _, _, rfl, hget, .unchanged there free differs⟩
        | differs updated =>
          have hv : Table.version updated = Table.version found := by
            unfold Table.version
            rw [applies _ _ _ differs]
            rfl
          have hreplace : (Stored.table (c.noted (callOn α space name .get)) : Table α).replace
              space name updated = .ok (replacedIn (Stored.table c) space name found updated) := by
            rw [table_noted, Table.replace_of_version there hv]
            rfl
          simp only [Bool.false_eq_true, if_false, Action.exec_bind, exec_replace hreplace]
          cases hs : (c.noted (callOn α space name .get)).struck?
              (callOn α space name .replace) with
          | some e =>
            exact ⟨_, [.replace, .get], _, _, rfl, hget.noted _,
              .notUpdated (hf hs) there free differs e⟩
          | none =>
            exact ⟨_, [.replace, .get], _, _, rfl, (hget.noted _).written _,
              .updated there free differs⟩

/-- An attempt to remove an object makes calls on its name only, and ends in one of the ways of
`Removed`. -/
theorem exec_removeOwned (space name uid : String) {c : Cluster} {faulty : Prop}
    (hf : c.faults ≠ [] → faulty) (r : ρ) :
    ∃ x verbs t after,
      (removeOwned (store α).onLeft space name uid).exec (c, r) = (x, (after, r)) ∧
        Called c (verbs.map (callOn α space name)) t after ∧
          Removed faulty space name uid (Stored.table c : Table α) x verbs t := by
  have hget := (Called.refl (α := α) c).noted (callOn α space name .get)
  unfold removeOwned
  rw [Action.exec_bind, exec_get]
  cases hs : c.struck? (callOn α space name .get) with
  | some e => exact ⟨_, [.get], _, _, rfl, hget, .struck (hf (faults_of_struck hs)) e⟩
  | none =>
    cases there : (Stored.table c : Table α).get? space name with
    | none => exact ⟨_, [.get], _, _, rfl, hget, .absent there⟩
    | some found =>
      dsimp only
      cases owned : (Resource.metadata found).isOwnedBy uid with
      | false => exact ⟨_, [.get], _, _, rfl, hget, .notOwned there owned⟩
      | true =>
        simp only [if_true, Action.exec_bind, exec_delete, table_noted]
        cases hs : (c.noted (callOn α space name .get)).struck?
            (callOn α space name .delete) with
        | some e =>
          have hf := hf (faults_of_noted (faults_of_struck hs))
          exact ⟨_, [.delete, .get], _, _, rfl, hget.noted _, .notDeleted hf there owned e⟩
        | none =>
          exact ⟨_, [.delete, .get], _, _, rfl, (hget.noted _).written _, .deleted there owned⟩

end ServiceBinding.Convergence
