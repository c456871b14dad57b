import ServiceBinding.Proofs.Contention
import ServiceBinding.Proofs.Convergence.Allocation
import ServiceBinding.Proofs.Text.Numeral

/-!
Attempts next to other clients. Between the look of an attempt and its write, other clients may
create and replace objects. Versions are numerals, and each write makes the one in its place
greater (`Numbered`, `Overtaken`), so an object that has the version looked at is the one looked
at. As a replacement carries this version, an attempt writes over what it has compared or not at
all (`ensure_atomic`).
-/
namespace ServiceBinding.Cluster
open Convergence Object
variable {ρ α : Type}

/-! ### Versions -/

section Versions
variable [Resource α]

/-- The objects that have been put in from outside, each with its namespace. -/
def Table.seeded (seeds : List (String × α)) : Table α :=
  seeds.foldl (fun t seed => t.seed seed.1 seed.2) {}

/-- Whether all versions are numerals of numbers up to some `n`. -/
def Numbered (n : Nat) (t : Table α) : Prop :=
  t.Each fun _ _ a => ∃ v ≤ n, Table.version a = some (toString v)

/-- Whether an object has a smaller version than another one. -/
def Overtaken (a b : α) : Prop :=
  ∃ v v' : Nat, v < v' ∧ Table.version a = some (toString v) ∧
    Table.version b = some (toString v')

@[simp] theorem Table.version_withVersion (a : α) (version : String) :
    Table.version (Table.withVersion a version) = some version := by
  rw [Table.version, Table.metadata_withVersion]

theorem Table.nextVersion_toString {v : Nat} (small : v < UInt64.size) :
    Table.nextVersion (some (toString v)) = toString (v + 1) := by
  rw [nextVersion, Option.bind_some, Text.word64?_toString small, Option.getD_some]

theorem Overtaken.trans {a b d : α} (h : Overtaken a b) (h' : Overtaken b d) : Overtaken a d := by
  obtain ⟨v, v', lt, ha, hb⟩ := h
  obtain ⟨w, w', lt', hb', hd⟩ := h'
  obtain rfl : v' = w := Text.toString_injective (Option.some.inj (hb.symm.trans hb'))
  exact ⟨v, w', Nat.lt_trans lt lt', ha, hd⟩

theorem Overtaken.version_ne {a b : α} (h : Overtaken a b) : Table.version b ≠ Table.version a := by
  obtain ⟨v, v', lt, ha, hb⟩ := h
  intro same
  have := Text.toString_injective (Option.some.inj (hb.symm.trans (same.trans ha)))
  omega

theorem numbered_seeded (seeds : List (String × α)) : Numbered 1 (Table.seeded seeds) := by
  have hfold : ∀ t : Table α, Numbered 1 t →
      Numbered 1 (seeds.foldl (fun t seed => t.seed seed.1 seed.2) t) := by
    induction seeds with
    | nil => exact fun _ h => h
    | cons seed rest ih =>
      exact fun t h => ih _ (h.put ⟨1, Nat.le_refl 1, Table.version_withVersion _ _⟩)
  exact hfold _ (Table.Each.empty _)

end Versions

/-! ### Turns of other clients -/

section Turns
variable [Stored α] {t : Table α} {n : Nat}

/-- A write that does not delete leaves all of a table, or puts an object where there is none, or
one in place of another. -/
theorem after_cases (t : Table α) {w : Write α} (kept : w.object?.isSome) :
    t.after w = t ∨
      (∃ space name a, t.get? space name = none ∧ t.after w = createdIn t space name a) ∨
        ∃ space name found a, t.get? space name = some found ∧
          t.after w = replacedIn t space name found a := by
  cases w with
  | create space a =>
    cases hget : t.get? space (Table.ownName a) with
    | none =>
      refine .inr (.inl ⟨space, _, a, hget, ?_⟩)
      rw [Table.after, Table.create_of_absent hget]
      rfl
    | some other =>
      left
      rw [Table.after, Table.create_of_taken hget]
      rfl
  | replace space name a =>
    cases hget : t.get? space name with
    | none =>
      left
      rw [Table.after, Table.replace_of_absent hget]
      rfl
    | some found =>
      by_cases same : Table.version a = Table.version found
      · refine .inr (.inr ⟨space, name, found, a, hget, ?_⟩)
        rw [Table.after, Table.replace_of_version hget same]
        rfl
      · left
        rw [Table.after, Table.replace_of_otherVersion hget same]
        rfl
  | delete => cases kept

theorem Numbered.after (h : Numbered n t) (small : n < UInt64.size) {w : Write α}
    (kept : w.object?.isSome) : Numbered (n + 1) (t.after w) := by
  have hmore : Numbered (n + 1) t := fun space name a ha =>
    (h space name a ha).imp fun _ hv => ⟨Nat.le_succ_of_le hv.1, hv.2⟩
  obtain same | ⟨space, name, a, _, put⟩ | ⟨space, name, found, a, there, put⟩ :=
    after_cases t kept
  · rwa [same]
  · rw [put]
    exact hmore.put ⟨1, Nat.le_add_left 1 n, Table.version_withVersion _ _⟩
  · rw [put]
    obtain ⟨v, hv, hversion⟩ := h _ _ _ there
    refine hmore.put ⟨v + 1, Nat.succ_le_succ hv, ?_⟩
    rw [Table.version_withVersion, hversion,
      Table.nextVersion_toString (Nat.lt_of_le_of_lt hv small)]

/-- A write leaves the object of a place or puts one of a greater version there. -/
theorem Numbered.overtaken (h : Numbered n t) (small : n < UInt64.size) {w : Write α}
    (kept : w.object?.isSome) {space name : String} {a : α} (there : t.get? space name = some a) :
    ∃ b, (t.after w).get? space name = some b ∧ (b = a ∨ Overtaken a b) := by
  obtain same | ⟨space', name', a', absent, put⟩ | ⟨space', name', found, a', there', put⟩ :=
    after_cases t kept
  · exact ⟨a, by rw [same, there], .inl rfl⟩
  · refine ⟨a, ?_, .inl rfl⟩
    rw [put, get?_createdIn, if_neg, there]
    rintro ⟨rfl, rfl⟩
    cases absent.symm.trans there
  · rw [put, get?_replacedIn]
    by_cases hp : space = space' ∧ name = name'
    · obtain ⟨rfl, rfl⟩ := hp
      cases there'.symm.trans there
      obtain ⟨v, hv, hversion⟩ := h _ _ _ there
      refine ⟨_, if_pos ⟨rfl, rfl⟩, .inr ⟨v, v + 1, Nat.lt_succ_self v, hversion, ?_⟩⟩
      rw [Table.version_withVersion, hversion,
        Table.nextVersion_toString (Nat.lt_of_le_of_lt hv small)]
    · exact ⟨a, by rw [if_neg hp, there], .inl rfl⟩

/-- What other clients may ask for next to an attempt: to create and to replace objects. -/
def Keeping (writes : List (Write α)) : Prop := ∀ w ∈ writes, w.object?.isSome

theorem Numbered.foldl_after {writes : List (Write α)} (keeping : Keeping writes)
    (h : Numbered n t) (small : n + writes.length ≤ UInt64.size) :
    Numbered (n + writes.length) (writes.foldl Table.after t) := by
  induction writes generalizing t n with
  | nil => exact h
  | cons w rest ih =>
    obtain ⟨kept, keeping⟩ := List.forall_mem_cons.1 keeping
    rw [List.length_cons] at small ⊢
    rw [← Nat.add_assoc, Nat.add_right_comm]
    exact ih keeping (h.after (by omega) kept) (by omega)

/-- Writes leave the object of a place or put one of a greater version there. -/
theorem Numbered.foldl_overtaken {writes : List (Write α)} (keeping : Keeping writes)
    (h : Numbered n t) (small : n + writes.length ≤ UInt64.size) {space name : String} {a : α}
    (there : t.get? space name = some a) :
    ∃ b, (writes.foldl Table.after t).get? space name = some b ∧ (b = a ∨ Overtaken a b) := by
  induction writes generalizing t n a with
  | nil => exact ⟨a, there, .inl rfl⟩
  | cons w rest ih =>
    obtain ⟨kept, keeping⟩ := List.forall_mem_cons.1 keeping
    rw [List.length_cons] at small
    obtain ⟨b, hb, hba⟩ := h.overtaken (by omega) kept there
    obtain ⟨d, hd, hdb⟩ := ih keeping (h.after (by omega) kept) (by omega) hb
    refine ⟨d, hd, ?_⟩
    rcases hba with rfl | hba
    · exact hdb
    · rcases hdb with rfl | hdb
      · exact .inr hba
      · exact .inr (hba.trans hdb)

end Turns

/-! ### Calls -/

section Calls
variable [Stored α]

/-- A write as a call on the cluster. -/
def Write.call : Write α → Action (Cluster × ρ) Unit
  | .create space a => (store α).onLeft.create space a
  | .replace space name a => (store α).onLeft.replace space name a
  | .delete space name => (store α).onLeft.delete space name

/-- A table after the next turn of other clients. -/
def Table.afterTurn (t : Table α) (turns : List (List (Write α))) : Table α :=
  (turns.headD []).foldl Table.after t

theorem exec_crowded_create (s : Cluster × Crowd α) (space : String) (a : α) :
    ((crowded α).create space a).exec s =
      ((store α).onLeft.create space a).exec (turned s) := by
  simp [crowded, Action.exec_bind, exec_interrupt]

theorem exec_crowded_replace (s : Cluster × Crowd α) (space name : String) (a : α) :
    ((crowded α).replace space name a).exec s =
      ((store α).onLeft.replace space name a).exec (turned s) := by
  simp [crowded, Action.exec_bind, exec_interrupt]

variable [LawfulStored α]

theorem table_turned (s : Cluster × Crowd α) :
    Stored.table (turned s).1 = (Stored.table s.1 : Table α).afterTurn s.2.turns := by
  simp [turned, Table.afterTurn]

/-- A call that fails leaves all that is stored, and one that succeeds does what it asks for. -/
theorem table_call (w : Write α) (c : Cluster) (r : ρ) :
    Stored.table (w.call.exec (c, r)).2.1 =
      match (w.call.exec (c, r)).1 with
      | .ok _ => (Stored.table c : Table α).after w
      | .error _ => Stored.table c := by
  cases w with
  | create space a =>
    rw [Write.call, Table.after]
    cases h : (Stored.table c : Table α).create space a with
    | error e =>
      rw [exec_create_refused h]
      exact table_noted _ _
    | ok t =>
      rw [exec_create h]
      cases c.struck? (callOn α space (Table.ownName a) .create) with
      | some e => exact table_noted _ _
      | none => exact LawfulStored.table_withTable _ _
  | replace space name a =>
    rw [Write.call, Table.after]
    cases h : (Stored.table c : Table α).replace space name a with
    | error e =>
      rw [exec_replace_refused h]
      exact table_noted _ _
    | ok t =>
      rw [exec_replace h]
      cases c.struck? (callOn α space name .replace) with
      | some e => exact table_noted _ _
      | none => exact LawfulStored.table_withTable _ _
  | delete space name =>
    rw [Write.call, Table.after, exec_delete]
    cases c.struck? (callOn α space name .delete) with
    | some e => exact table_noted _ _
    | none => exact LawfulStored.table_withTable _ _

end Calls

/-! ### Attempts -/

section Attempts
variable [Stored α]

/-- The ways in which an attempt next to other clients can end: its result and the table it leaves,
by the table that it has looked at and the one that its write meets, if there is one. -/
inductive Contended (faulty : Prop) (compare : Comparer α) (space name : String) (wanted : α)
    (looked met : Table α) : Result Outcome → Table α → Prop
  | struck (h : faulty) (e : Error) :
    Contended faulty compare space name wanted looked met (.error e) looked
  | refused {found : α} (there : looked.get? space name = some found)
      (alien : conflicts (Resource.metadata wanted) (Resource.metadata found) = true) :
    Contended faulty compare space name wanted looked met
      (.error (.ownershipConflict (Resource.kind α) space name)) looked
  | unchanged {found : α} (there : looked.get? space name = some found)
      (free : conflicts (Resource.metadata wanted) (Resource.metadata found) = false)
      (equal : compare wanted found = .equal) :
    Contended faulty compare space name wanted looked met (.ok .unchanged) looked
  | notWritten (h : faulty) (e : Error) :
    Contended faulty compare space name wanted looked met (.error e) met
  | created (absent : looked.get? space name = none) (still : met.get? space name = none) :
    Contended faulty compare space name wanted looked met (.ok .created)
      (createdIn met space name wanted)
  | taken {other : α} (absent : looked.get? space name = none)
      (there : met.get? space name = some other) :
    Contended faulty compare space name wanted looked met
      (.error (.api 409 "AlreadyExists" (name ++ " already exists"))) met
  | updated {found updated : α} (there : looked.get? space name = some found)
      (free : conflicts (Resource.metadata wanted) (Resource.metadata found) = false)
      (differs : compare wanted found = .differs updated)
      (still : met.get? space name = some found) :
    Contended faulty compare space name wanted looked met (.ok .updated)
      (replacedIn met space name found updated)
  | outdated {found updated other : α} (there : looked.get? space name = some found)
      (free : conflicts (Resource.metadata wanted) (Resource.metadata found) = false)
      (differs : compare wanted found = .differs updated)
      (there' : met.get? space name = some other) (overtaken : Overtaken found other) :
    Contended faulty compare space name wanted looked met
      (.error (.api 409 "Conflict" "resourceVersion mismatch")) met

variable [LawfulStored α] {faulty : Prop} {compare : Comparer α} {space name : String} {wanted : α}
  {looked met : Table α} {c : Cluster}

theorem faults_turned (s : Cluster × Crowd α) : (turned s).1.faults = s.1.faults :=
  LawfulStored.faults_withTable _ _

/-- An attempt that has seen no object creates one unless there is one by then. -/
theorem contended_create (hf : c.faults ≠ [] → faulty) (hmet : Stored.table c = met)
    (named : Table.ownName wanted = name) (absent : looked.get? space name = none) (r : ρ) :
    Contended faulty compare space name wanted looked met
      ((((store α).onLeft.create space wanted).exec (c, r)).1.map fun _ => .created)
      (Stored.table (((store α).onLeft.create space wanted).exec (c, r)).2.1) := by
  subst hmet named
  cases there : (Stored.table c : Table α).get? space (Table.ownName wanted) with
  | none =>
    rw [exec_create (Table.create_of_absent there)]
    dsimp only
    cases hs : c.struck? (callOn α space (Table.ownName wanted) .create) with
    | some e =>
      dsimp only
      rw [table_noted]
      exact .notWritten (hf (faults_of_struck hs)) e
    | none =>
      dsimp only
      rw [LawfulStored.table_withTable]
      exact .created absent there
  | some other =>
    rw [exec_create_refused (Table.create_of_taken there)]
    dsimp only
    rw [table_noted]
    cases hs : c.struck? (callOn α space (Table.ownName wanted) .create) with
    | some e => exact .notWritten (hf (faults_of_struck hs)) e
    | none => exact .taken absent there

/-- An attempt that has seen an object replaces it unless there is another one by then. -/
theorem contended_replace {found updated other : α} (applies : Applies compare)
    (hf : c.faults ≠ [] → faulty) (hmet : Stored.table c = met)
    (there : looked.get? space name = some found)
    (free : conflicts (Resource.metadata wanted) (Resource.metadata found) = false)
    (differs : compare wanted found = .differs updated)
    (there' : met.get? space name = some other) (since : other = found ∨ Overtaken found other)
    (r : ρ) :
    Contended faulty compare space name wanted looked met
      ((((store α).onLeft.replace space name updated).exec (c, r)).1.map fun _ => .updated)
      (Stored.table (((store α).onLeft.replace space name updated).exec (c, r)).2.1) := by
  subst hmet
  -- What is proposed has the version of the object that it was made of.
  have hversion : Table.version updated = Table.version found := by
    unfold Table.version
    rw [applies _ _ _ differs]
    rfl
  rcases since with rfl | overtaken
  · rw [exec_replace (Table.replace_of_version there' hversion)]
    dsimp only
    cases hs : c.struck? (callOn α space name .replace) with
    | some e =>
      dsimp only
      rw [table_noted]
      exact .notWritten (hf (faults_of_struck hs)) e
    | none =>
      dsimp only
      rw [LawfulStored.table_withTable]
      exact .updated there free differs there'
  · rw [exec_replace_refused (Table.replace_of_otherVersion there'
      (by rw [hversion]; exact overtaken.version_ne.symm))]
    dsimp only
    rw [table_noted]
    cases hs : c.struck? (callOn α space name .replace) with
    | some e => exact .notWritten (hf (faults_of_struck hs)) e
    | none => exact .outdated there free differs there' overtaken

/-- An attempt next to other clients ends in one of the ways of `Contended`, if these only put
objects of greater versions into a place that is taken. -/
theorem contended_ensure (applies : Applies compare)
    (named : (Resource.metadata wanted).name = some name) (s : Cluster × Crowd α)
    (hlooked : (Stored.table s.1 : Table α).afterTurn s.2.turns = looked)
    (hmet : looked.afterTurn s.2.turns.tail = met)
    (since : ∀ found, looked.get? space name = some found →
      ∃ other, met.get? space name = some other ∧ (other = found ∨ Overtaken found other)) :
    Contended (s.1.faults ≠ []) compare space name wanted looked met
      ((ensure (crowded α) compare space name wanted).exec s).1
      (Stored.table ((ensure (crowded α) compare space name wanted).exec s).2.1) := by
  have hown : Table.ownName wanted = name := by
    unfold Table.ownName
    rw [named]
    rfl
  have htable : Stored.table (seen s).1 = looked := (table_turned s).trans hlooked
  have hfaults : (seen s).1.faults = s.1.faults := faults_turned s
  have hturns : (seen s).2.turns = s.2.turns.tail := rfl
  unfold ensure
  rw [Action.exec_bind, exec_crowded_get]
  generalize seen s = s₁ at htable hfaults hturns
  obtain ⟨c, o⟩ := s₁
  dsimp only at htable hfaults hturns
  rw [exec_get, htable]
  cases hs : c.struck? (callOn α space name .get) with
  | some e =>
    dsimp only
    rw [table_noted, htable]
    exact .struck (hfaults ▸ faults_of_struck hs) e
  | none =>
    -- What the second call meets, if there is one.
    have hmet : Stored.table (turned (c.noted (callOn α space name .get), o)).1 = met := by
      rw [table_turned, table_noted, htable, hturns, hmet]
    have hfaulty :
        (turned (c.noted (callOn α space name .get), o)).1.faults ≠ [] → s.1.faults ≠ [] := by
      rw [faults_turned, ← hfaults]
      exact faults_of_noted
    dsimp only
    cases there : looked.get? space name with
    | none =>
      dsimp only
      rw [Action.exec_bind_pure, exec_crowded_create]
      exact contended_create hfaulty hmet hown there _
    | some found =>
      dsimp only
      cases free : conflicts (Resource.metadata wanted) (Resource.metadata found) with
      | true =>
        rw [if_pos rfl, Action.exec_throw, table_noted, htable]
        exact .refused there free
      | false =>
        rw [if_neg Bool.false_ne_true]
        cases differs : compare wanted found with
        | equal =>
          dsimp only
          rw [Action.exec_pure, table_noted, htable]
          exact .unchanged there free differs
        | differs updated =>
          obtain ⟨other, there', later⟩ := since found there
          dsimp only
          rw [Action.exec_bind_pure, exec_crowded_replace]
          exact contended_replace applies hfaulty hmet there free differs there' later _

end Attempts

/-! ### Compare and swap -/

section Swapping
variable [Stored α]

/-- Attempts are atomic: on objects that have been put in from outside, next to any other clients
that create and replace objects in less than 2^64 writes, an attempt ends in one of the ways of
`Contended`; and a call that fails, whosever it is, leaves all that is stored. -/
structure Atomic (ρ : Type) (compare : Comparer α) : Prop where
  ensured : ∀ (seeds : List (String × α)) (c : Cluster) (turns : List (List (Write α)))
    (space name : String) (wanted : α), Stored.table c = Table.seeded seeds →
      Keeping turns.flatten → turns.flatten.length < UInt64.size →
      (Resource.metadata wanted).name = some name →
        let looked := (Table.seeded seeds).afterTurn turns
        let met := looked.afterTurn turns.tail
        let (x, after, _) := (ensure (crowded α) compare space name wanted).exec
          (c, { turns := turns })
        Contended (c.faults ≠ []) compare space name wanted looked met x (Stored.table after)
  failed : ∀ (c : Cluster) (r : ρ) (w : Write α) (e : Error), (w.call.exec (c, r)).1 = .error e →
    (Stored.table (w.call.exec (c, r)).2.1 : Table α) = Stored.table c

theorem atomic_of_applies [LawfulStored α] (ρ : Type) {compare : Comparer α}
    (applies : Applies compare) : Atomic ρ compare where
  ensured seeds c turns space name wanted hc keeping small named := by
    refine contended_ensure applies named (c, { turns := turns }) (by rw [hc]) rfl ?_
    intro found there
    have numbered := numbered_seeded seeds
    match turns with
    | [] => exact ⟨found, there, .inl rfl⟩
    | [_] => exact ⟨found, there, .inl rfl⟩
    | before :: between :: rest =>
      simp only [List.flatten_cons, List.length_append] at small
      obtain ⟨hbefore, hbetween⟩ : Keeping before ∧ Keeping between :=
        ⟨fun w hw => keeping w (by simp [hw]), fun w hw => keeping w (by simp [hw])⟩
      exact (numbered.foldl_after hbefore (by omega)).foldl_overtaken hbetween (by omega) there
  failed c r w e h := by
    rw [table_call, h]

/-- **Attempts compare and swap**: whatever other clients create and replace between the look of
an attempt and its write, the attempt writes only if the place still has the object that it has
compared, or none if it had none. So no write of another client in between is lost, and an object
that has got another owner in between is not written over. -/
theorem ensure_atomic (ρ : Type) :
    Atomic ρ compareDeployment ∧ Atomic ρ compareService ∧ Atomic ρ compareSecret ∧
      Atomic ρ compareConfigMap :=
  ⟨atomic_of_applies ρ applies_compareDeployment, atomic_of_applies ρ applies_compareService,
    atomic_of_applies ρ applies_compareSecret, atomic_of_applies ρ applies_compareConfigMap⟩

/-- Another client creates and replaces a config map beside the one that the attempt replaces. -/
theorem ensure_atomic_beside :
    let text (name value : String) (version : Option String) : ConfigMap :=
      { metadata := { name := some name, resourceVersion := version }
        data := some (.ofList [("nuxeo.conf", value)]) }
    let seeds := [("prod", text "nx" "a=1" none)]
    let turns : List (List (Write ConfigMap)) :=
      [[.create "prod" (text "pg" "b=1" none)], [.replace "prod" "pg" (text "pg" "b=2" (some "1"))]]
    let c : Cluster := { configMaps := Table.seeded seeds }
    ((ensure (crowded ConfigMap) compareConfigMap "prod" "nx" (text "nx" "a=2" none)).exec
        (c, { turns := turns })).1 = .ok .updated ∧
      (((Table.seeded seeds).afterTurn turns).afterTurn turns.tail).get? "prod" "nx" =
        some (text "nx" "a=1" (some "1")) := by
  intro text seeds turns c
  have contended := (ensure_atomic Unit).2.2.2.ensured seeds c turns "prod" "nx"
    (text "nx" "a=2" none) rfl (by unfold Keeping; decide) (by decide) rfl
  have updated : ((ensure (crowded ConfigMap) compareConfigMap "prod" "nx"
      (text "nx" "a=2" none)).exec (c, { turns := turns })).1 = .ok .updated := by
    decide +kernel
  have there : ((Table.seeded seeds).afterTurn turns).get? "prod" "nx" =
      some (text "nx" "a=1" (some "1")) := by
    decide +kernel
  refine ⟨updated, ?_⟩
  generalize (ensure (crowded ConfigMap) compareConfigMap "prod" "nx"
    (text "nx" "a=2" none)).exec (c, { turns := turns }) = y at contended updated
  obtain ⟨x, after, o⟩ := y
  cases updated
  dsimp only at contended
  generalize (Stored.table after : Table ConfigMap) = t at contended
  cases contended with
  | updated there' _ _ still =>
    cases there.symm.trans there'
    exact still

end Swapping

end ServiceBinding.Cluster
