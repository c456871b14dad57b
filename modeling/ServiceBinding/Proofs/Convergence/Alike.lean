import ServiceBinding.Proofs.Convergence.Attempts

/-!
One action from two states. It is alike from them if it has the same result and leaves states that
are related (`Action.Alike`). An attempt to bring an object to a wanted state, or to remove it, sees
one place of a table and the answers to the calls on that place, so it is alike from any two
clusters that match there (`Matched`), whatever else they hold.
-/
namespace ServiceBinding.Convergence
open Cluster Object
variable {σ ρ α β : Type}

namespace Action

/-- Whether an action has the same result from two states and leaves related ones. -/
def Alike (R : σ → σ → Prop) (a : Action σ α) (s s' : σ) : Prop :=
  (a.exec s).1 = (a.exec s').1 ∧ R (a.exec s).2 (a.exec s').2

section Alike
variable {R : σ → σ → Prop} {s s' : σ}

theorem Alike.pure (x : α) (h : R s s') : (Pure.pure x : Action σ α).Alike R s s' := ⟨rfl, h⟩

theorem Alike.throw (e : Error) (h : R s s') :
    (MonadExcept.throw e : Action σ α).Alike R s s' := ⟨rfl, h⟩

theorem Alike.lift (r : Result α) (h : R s s') : (liftM r : Action σ α).Alike R s s' := by
  cases r <;> exact ⟨rfl, h⟩

/-- A sequence is alike if its first part leaves states from which its second one is. -/
theorem Alike.bind_of_imp {Q : σ → σ → Prop} {a : Action σ α} {f : α → Action σ β}
    (first : a.Alike Q s s') (ended : ∀ {t t'}, Q t t' → R t t')
    (next : ∀ x t t', Q t t' → (f x).Alike R t t') : (a >>= f).Alike R s s' := by
  obtain ⟨same, related⟩ := first
  unfold Alike
  rw [exec_bind, exec_bind]
  generalize a.exec s = u at same related
  generalize a.exec s' = u' at same related
  obtain ⟨x, t⟩ := u
  obtain ⟨x', t'⟩ := u'
  obtain rfl : x = x' := same
  cases x with
  | error e => exact ⟨rfl, ended related⟩
  | ok x => exact next x t t' related

theorem Alike.bind {a : Action σ α} {f : α → Action σ β} (first : a.Alike R s s')
    (next : ∀ x t t', R t t' → (f x).Alike R t t') : (a >>= f).Alike R s s' :=
  first.bind_of_imp id next

/-- A computation that comes first does not tell the states apart. -/
theorem Alike.bind_lift {r : Result α} {f : α → Action σ β} (related : R s s')
    (next : ∀ x, r = .ok x → (f x).Alike R s s') : (liftM r >>= f : Action σ β).Alike R s s' := by
  cases r with
  | error e => exact .throw e related
  | ok x => exact next x rfl

end Alike

end Action

/-! ### Places -/

/-- Whether a relation of tables is told by one place: related tables agree there, and stay related
when the same is done to that place in both. -/
structure Local (T : Table α → Table α → Prop) (space name : String) : Prop where
  get? : ∀ {t t'}, T t t' → t.get? space name = t'.get? space name
  put : ∀ {t t'} (a : α), T t t' → T (t.put space name a).counted (t'.put space name a).counted
  delete : ∀ {t t'}, T t t' → T (t.delete space name) (t'.delete space name)

theorem Local.eq (space name : String) : Local (α := α) Eq space name where
  get? h := by rw [h]
  put a h := by rw [h]
  delete h := by rw [h]

/-- Whether two tables hold the same objects in some places. -/
def AgreeOn (places : String → String → Prop) (t t' : Table α) : Prop :=
  ∀ space name, places space name → t.get? space name = t'.get? space name

theorem Local.agreeOn {places : String → String → Prop} {space name : String}
    (there : places space name) : Local (α := α) (AgreeOn places) space name where
  get? h := h space name there
  put a h space' name' hp := by
    rw [Table.get?_counted, Table.get?_counted, Table.get?_put, Table.get?_put, h space' name' hp]
  delete h space' name' hp := by
    rw [Table.get?_delete, Table.get?_delete, h space' name' hp]

section Local
variable [Resource α] {T : Table α → Table α → Prop} {space name : String} {t t' : Table α} {a : α}

/-- How two attempts to write compare: both are refused alike, or both give related tables. -/
inductive Written (T : Table α → Table α → Prop) : Result (Table α) → Result (Table α) → Prop
  | refused (e : Error) : Written T (.error e) (.error e)
  | done {t t' : Table α} (h : T t t') : Written T (.ok t) (.ok t')

theorem Local.create (h : Local T space name) (own : Table.ownName a = name) (related : T t t') :
    Written T (t.create space a) (t'.create space a) := by
  unfold Table.create
  rw [own, ← h.get? related]
  cases t.get? space name with
  | some _ => exact .refused _
  | none => exact .done (h.put _ related)

theorem Local.replace (h : Local T space name) (related : T t t') :
    Written T (t.replace space name a) (t'.replace space name a) := by
  unfold Table.replace
  rw [← h.get? related]
  cases t.get? space name with
  | none => exact .refused _
  | some current =>
    dsimp only
    split
    · exact .refused _
    · exact .done (h.put _ related)

end Local

/-! ### Calls -/

/-- How some faults answer some calls made one after the other. -/
def answers : List Call → List Fault → List (Option Error)
  | [], _ => []
  | call :: rest, faults =>
    (strike call faults).1 :: answers rest (strike call faults).2

/-- Whether two lists of faults answer all calls on one place alike. -/
def AnsweredAlike (α : Type) [Stored α] (space name : String) (faults faults' : List Fault) :
    Prop :=
  ∀ verbs : List Verb, answers (verbs.map (callOn α space name)) faults =
    answers (verbs.map (callOn α space name)) faults'

/-- Whether two clusters match as far as calls on one place can tell. -/
structure Matched [Stored α] (T : Table α → Table α → Prop) (space name : String)
    (c c' : Cluster) : Prop where
  tables : T (Stored.table c) (Stored.table c')
  answered : AnsweredAlike α space name c.faults c'.faults

section Calls
variable [Stored α] {T : Table α → Table α → Prop} {Q : ρ → ρ → Prop} {space name : String}
  {c c' : Cluster} {r r' : ρ}

theorem Matched.struck? (h : Matched T space name c c') (verb : Verb) :
    c.struck? (callOn α space name verb) = c'.struck? (callOn α space name verb) :=
  (List.cons.inj (h.answered [verb])).1

variable [LawfulStored α]

theorem Matched.noted (h : Matched T space name c c') (verb : Verb) :
    Matched T space name (c.noted (callOn α space name verb))
      (c'.noted (callOn α space name verb)) where
  tables := by
    rw [table_noted, table_noted]
    exact h.tables
  answered verbs := (List.cons.inj (h.answered (verb :: verbs))).2

theorem Matched.written (h : Matched T space name c c') {t t' : Table α} (related : T t t') :
    Matched T space name (Stored.withTable c t) (Stored.withTable c' t') where
  tables := by
    rw [LawfulStored.table_withTable, LawfulStored.table_withTable]
    exact related
  answered := by
    rw [LawfulStored.faults_withTable, LawfulStored.faults_withTable]
    exact h.answered

/-- Whether the clusters in two states match and the readers are related. -/
def MatchedLeft (T : Table α → Table α → Prop) (Q : ρ → ρ → Prop) (space name : String)
    (s s' : Cluster × ρ) : Prop :=
  Matched T space name s.1 s'.1 ∧ Q s.2 s'.2

theorem alike_get (h : Local T space name) (m : Matched T space name c c') (q : Q r r') :
    ((store α).onLeft.get space name).Alike (MatchedLeft T Q space name) (c, r) (c', r') := by
  unfold Action.Alike
  rw [exec_get, exec_get, m.struck? .get, h.get? m.tables]
  exact ⟨rfl, m.noted .get, q⟩

/-- A call that writes is alike if what it tries to write is. -/
theorem alike_write (m : Matched T space name c c') (q : Q r r') (verb : Verb)
    (attempt : Table α → Result (Table α))
    (written : ∀ {t t'}, T t t' → Written T (attempt t) (attempt t')) :
    (do
      announce (callOn α space name verb)
      let c ← get
      match attempt (Stored.table c) with
      | .ok table => set (Stored.withTable c table)
      | .error e => throw e : Action Cluster Unit).onLeft.Alike (MatchedLeft T Q space name)
        (c, r) (c', r') := by
  unfold Action.Alike MatchedLeft
  simp only [Action.exec_onLeft, Action.exec_bind, exec_announce, ← m.struck? verb]
  cases c.struck? (callOn α space name verb) with
  | some e => exact ⟨rfl, m.noted verb, q⟩
  | none =>
    have hw := written (m.noted verb).tables
    simp only [Action.exec_get]
    generalize attempt (Stored.table (c.noted (callOn α space name verb))) = u at hw
    generalize attempt (Stored.table (c'.noted (callOn α space name verb))) = u' at hw
    cases hw with
    | refused e => exact ⟨rfl, m.noted verb, q⟩
    | done related => exact ⟨rfl, (m.noted verb).written related, q⟩

theorem alike_create (h : Local T space name) (m : Matched T space name c c') (q : Q r r') {a : α}
    (own : Table.ownName a = name) :
    ((store α).onLeft.create space a).Alike (MatchedLeft T Q space name) (c, r) (c', r') := by
  subst own
  exact alike_write m q .create (·.create space a) fun related => h.create rfl related

theorem alike_replace (h : Local T space name) (m : Matched T space name c c') (q : Q r r')
    (a : α) :
    ((store α).onLeft.replace space name a).Alike (MatchedLeft T Q space name) (c, r) (c', r') :=
  alike_write m q .replace (·.replace space name a) fun related => h.replace related

theorem alike_delete (h : Local T space name) (m : Matched T space name c c') (q : Q r r') :
    ((store α).onLeft.delete space name).Alike (MatchedLeft T Q space name) (c, r) (c', r') :=
  alike_write m q .delete (fun t => .ok (t.delete space name))
    fun related => .done (h.delete related)

/-! ### Attempts -/

theorem alike_ensure (h : Local T space name) (compare : Comparer α) {wanted : α}
    (named : (Resource.metadata wanted).name = some name) (m : Matched T space name c c')
    (q : Q r r') :
    (ensure (store α).onLeft compare space name wanted).Alike (MatchedLeft T Q space name)
      (c, r) (c', r') := by
  have own : Table.ownName wanted = name := by
    unfold Table.ownName
    rw [named]
    rfl
  refine (alike_get h m q).bind ?_
  rintro found t t' ⟨m, q⟩
  cases found with
  | none => exact (alike_create h m q own).bind fun _ _ _ m => .pure _ m
  | some found =>
    dsimp only
    split
    · exact .throw _ ⟨m, q⟩
    · split
      · exact .pure _ ⟨m, q⟩
      · exact (alike_replace h m q _).bind fun _ _ _ m => .pure _ m

theorem alike_removeOwned (h : Local T space name) (uid : String)
    (m : Matched T space name c c') (q : Q r r') :
    (removeOwned (store α).onLeft space name uid).Alike (MatchedLeft T Q space name)
      (c, r) (c', r') := by
  refine (alike_get h m q).bind ?_
  rintro found t t' ⟨m, q⟩
  cases found with
  | none => exact .pure _ ⟨m, q⟩
  | some found =>
    dsimp only
    split
    · exact (alike_delete h m q).bind fun _ _ _ m => .pure _ m
    · exact .pure _ ⟨m, q⟩

end Calls

end ServiceBinding.Convergence
