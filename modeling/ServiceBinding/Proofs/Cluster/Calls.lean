import ServiceBinding.Cluster.Basic
import ServiceBinding.Proofs.Cluster.Table
import ServiceBinding.Proofs.Convergence.Running

/-!
Calls on the in-memory cluster. Every call is put on record, whatever comes of it; a fault answers
it before the table does. What a call changes besides is the table of its kind (`advanced`), and
where no fault is left to come, none ever strikes.
-/
namespace ServiceBinding.Cluster
open Convergence Object
variable {ρ α : Type}

/-! ### Faults -/

/-- The error that strikes a call, if there is one. -/
def struck? (c : Cluster) (call : Call) : Option Error := (strike call c.faults).1

/-- The cluster with other faults to come and other calls on record. -/
def logged (c : Cluster) (faults : List Fault) (calls : List Call) : Cluster :=
  { c with faults := faults, calls := calls }

/-- The cluster with a call on record. -/
def noted (c : Cluster) (call : Call) : Cluster :=
  c.logged (strike call c.faults).2 (call :: c.calls)

theorem exec_announce (c : Cluster) (call : Call) :
    (announce call).exec c =
      (match c.struck? call with
        | some e => .error e
        | none => .ok (), c.noted call) := by
  unfold announce struck? noted
  simp only [Action.exec_bind, Action.exec_get]
  generalize strike call c.faults = r
  obtain ⟨e | e, faults⟩ := r <;> rfl

theorem struck?_of_quiet {c : Cluster} (quiet : c.faults = []) (call : Call) :
    c.struck? call = none := by
  unfold struck?
  rw [quiet]
  rfl

theorem faults_of_struck {c : Cluster} {call : Call} {e : Error} (h : c.struck? call = some e) :
    c.faults ≠ [] := by
  intro quiet
  rw [struck?_of_quiet quiet] at h
  cases h

@[simp] theorem noted_quiet {c : Cluster} (quiet : c.faults = []) (call : Call) :
    (c.noted call).faults = [] := by
  unfold noted
  rw [quiet]
  rfl

theorem faults_of_noted {c : Cluster} {call : Call} (h : (c.noted call).faults ≠ []) :
    c.faults ≠ [] :=
  fun quiet => h (noted_quiet quiet call)

/-- The faults that some calls, the latest first, have not used up. -/
def unused (log : List Call) (faults : List Fault) : List Fault :=
  log.foldr (fun call faults => (strike call faults).2) faults

@[simp] theorem unused_nil (log : List Call) : unused log [] = [] := by
  induction log with
  | nil => rfl
  | cons call log ih =>
    show (strike call (unused log [])).2 = []
    rw [ih]
    rfl

theorem unused_append (log log' : List Call) (faults : List Fault) :
    unused (log ++ log') faults = unused log (unused log' faults) :=
  List.foldr_append

/-- Whether faults answer any number of calls. -/
def Lasting (faults : List Fault) : Prop := ∀ f ∈ faults, f.times = none

/-- A fault that answers any number of calls is not used up. -/
theorem Lasting.strike {faults : List Fault} (h : Lasting faults) (call : Call) :
    (strike call faults).2 = faults := by
  induction faults with
  | nil => rfl
  | cons f rest ih =>
    obtain ⟨hf, hrest⟩ := List.forall_mem_cons.1 h
    unfold Cluster.strike
    split
    · rw [hf, Option.map_none, ← hf]
    · exact congrArg (f :: ·) (ih hrest)

theorem Lasting.unused {faults : List Fault} (h : Lasting faults) (log : List Call) :
    unused log faults = faults := by
  induction log with
  | nil => rfl
  | cons call log ih =>
    show (Cluster.strike call (Cluster.unused log faults)).2 = faults
    rw [ih, h.strike]

/-! ### Kinds of objects -/

/-- What access to the table of a kind owes: the table put in is the one found again, and the
record of calls and the faults are no part of it. -/
class LawfulStored (α : Type) [Stored α] : Prop where
  table_withTable : ∀ (c : Cluster) (t : Table α), Stored.table (Stored.withTable c t) = t
  withTable_table : ∀ c : Cluster, Stored.withTable c (Stored.table c : Table α) = c
  withTable_withTable : ∀ (c : Cluster) (t u : Table α),
    Stored.withTable (Stored.withTable c t) u = Stored.withTable c u
  table_logged : ∀ (c : Cluster) (faults : List Fault) (calls : List Call),
    (Stored.table (c.logged faults calls) : Table α) = Stored.table c
  withTable_logged : ∀ (c : Cluster) (faults : List Fault) (calls : List Call) (t : Table α),
    Stored.withTable (c.logged faults calls) t = (Stored.withTable c t).logged faults calls
  faults_withTable : ∀ (c : Cluster) (t : Table α), (Stored.withTable c t).faults = c.faults
  calls_withTable : ∀ (c : Cluster) (t : Table α), (Stored.withTable c t).calls = c.calls

attribute [simp] LawfulStored.table_withTable LawfulStored.withTable_table
  LawfulStored.withTable_withTable LawfulStored.table_logged LawfulStored.withTable_logged
  LawfulStored.faults_withTable LawfulStored.calls_withTable

instance : LawfulStored Secret where
  table_withTable _ _ := rfl
  withTable_table _ := rfl
  withTable_withTable _ _ _ := rfl
  table_logged _ _ _ := rfl
  withTable_logged _ _ _ _ := rfl
  faults_withTable _ _ := rfl
  calls_withTable _ _ := rfl

instance : LawfulStored ConfigMap where
  table_withTable _ _ := rfl
  withTable_table _ := rfl
  withTable_withTable _ _ _ := rfl
  table_logged _ _ _ := rfl
  withTable_logged _ _ _ _ := rfl
  faults_withTable _ _ := rfl
  calls_withTable _ _ := rfl

instance : LawfulStored Deployment where
  table_withTable _ _ := rfl
  withTable_table _ := rfl
  withTable_withTable _ _ _ := rfl
  table_logged _ _ _ := rfl
  withTable_logged _ _ _ _ := rfl
  faults_withTable _ _ := rfl
  calls_withTable _ _ := rfl

instance : LawfulStored Service where
  table_withTable _ _ := rfl
  withTable_table _ := rfl
  withTable_withTable _ _ _ := rfl
  table_logged _ _ _ := rfl
  withTable_logged _ _ _ _ := rfl
  faults_withTable _ _ := rfl
  calls_withTable _ _ := rfl

@[simp] theorem faults_logged (c : Cluster) (faults : List Fault) (calls : List Call) :
    (c.logged faults calls).faults = faults := rfl

@[simp] theorem calls_logged (c : Cluster) (faults : List Fault) (calls : List Call) :
    (c.logged faults calls).calls = calls := rfl

@[simp] theorem logged_logged (c : Cluster) (faults faults' : List Fault)
    (calls calls' : List Call) :
    (c.logged faults calls).logged faults' calls' = c.logged faults' calls' := rfl

section Stored
variable [Stored α]

/-- The call of a verb on the object of a name. -/
def callOn (α : Type) [Stored α] (space name : String) (verb : Verb) : Call :=
  ⟨verb, Resource.kind α, space, name⟩

/-- What calls leave that work on one kind of objects: a table of that kind, themselves on record,
the latest first, and of the faults what they have not used up. -/
def Called (c : Cluster) (log : List Call) (t : Table α) (after : Cluster) : Prop :=
  after = (Stored.withTable c t).logged (unused log c.faults) (log ++ c.calls)

variable {c after : Cluster} {log : List Call} {t : Table α}

theorem Called.noted (h : Called c log t after) (call : Call) :
    Called c (call :: log) t (after.noted call) := by
  subst h
  rfl

theorem Called.faults (h : Called c log t after) : after.faults = unused log c.faults := by
  subst h
  rfl

theorem Called.quiet (h : Called c log t after) (quiet : c.faults = []) : after.faults = [] := by
  rw [h.faults, quiet, unused_nil]

theorem Called.calls (h : Called c log t after) : after.calls = log ++ c.calls := by
  subst h
  rfl

/-! ### Other kinds -/

theorem Called.rest_secret {t : Table Secret} (h : Called c log t after) :
    after.configMaps = c.configMaps ∧ after.deployments = c.deployments := by
  subst h
  exact ⟨rfl, rfl⟩

theorem Called.rest_configMap {t : Table ConfigMap} (h : Called c log t after) :
    after.secrets = c.secrets ∧ after.deployments = c.deployments := by
  subst h
  exact ⟨rfl, rfl⟩

theorem Called.rest_deployment {t : Table Deployment} (h : Called c log t after) :
    after.secrets = c.secrets ∧ after.configMaps = c.configMaps := by
  subst h
  exact ⟨rfl, rfl⟩

variable [LawfulStored α]

theorem Called.refl (c : Cluster) : Called c [] (Stored.table c : Table α) c := by
  unfold Called
  rw [LawfulStored.withTable_table]
  rfl

theorem Called.written (h : Called c log t after) (u : Table α) :
    Called c log u (Stored.withTable after u) := by
  subst h
  simp [Called]

theorem Called.table (h : Called c log t after) : Stored.table after = t := by
  subst h
  simp

theorem Called.trans {mid : Cluster} {more : List Call} {u : Table α} (h : Called c log t mid)
    (h' : Called mid more u after) : Called c (more ++ log) u after := by
  subst h h'
  simp [Called, unused_append]

@[simp] theorem table_noted (c : Cluster) (call : Call) :
    (Stored.table (c.noted call) : Table α) = Stored.table c :=
  LawfulStored.table_logged _ _ _

/-! ### Access -/

theorem exec_get (c : Cluster) (r : ρ) (space name : String) :
    ((store α).onLeft.get space name).exec (c, r) =
      (match c.struck? (callOn α space name .get) with
        | some e => .error e
        | none => .ok ((Stored.table c : Table α).get? space name),
        (c.noted (callOn α space name .get), r)) := by
  simp only [store, Store.onLeft, Action.exec_onLeft, Action.exec_bind, exec_announce]
  rw [callOn]
  cases c.struck? _ with
  | some e => rfl
  | none => simp

theorem exec_list (c : Cluster) (r : ρ) (space selector : String) :
    ((store α).onLeft.list space selector).exec (c, r) =
      (match c.struck? (callOn α space selector .list) with
        | some e => .error e
        | none => .ok ((Stored.table c : Table α).select space selector),
        (c.noted (callOn α space selector .list), r)) := by
  simp only [store, Store.onLeft, Action.exec_onLeft, Action.exec_bind, exec_announce]
  rw [callOn]
  cases c.struck? _ with
  | some e => rfl
  | none => simp

theorem exec_create {c : Cluster} {r : ρ} {space : String} {a : α} {t : Table α}
    (h : (Stored.table c : Table α).create space a = .ok t) :
    ((store α).onLeft.create space a).exec (c, r) =
      let noted := c.noted (callOn α space (Table.ownName a) .create)
      match c.struck? (callOn α space (Table.ownName a) .create) with
      | some e => (.error e, (noted, r))
      | none => (.ok (), (Stored.withTable noted t, r)) := by
  simp only [store, Store.onLeft, Action.exec_onLeft, Action.exec_bind, exec_announce]
  rw [callOn]
  cases c.struck? _ with
  | some e => rfl
  | none => simp [h]

theorem exec_create_refused {c : Cluster} {space : String} {a : α} {e : Error}
    (h : (Stored.table c : Table α).create space a = .error e) (r : ρ) :
    ((store α).onLeft.create space a).exec (c, r) =
      (.error ((c.struck? (callOn α space (Table.ownName a) .create)).getD e),
        (c.noted (callOn α space (Table.ownName a) .create), r)) := by
  simp only [store, Store.onLeft, Action.exec_onLeft, Action.exec_bind, exec_announce]
  rw [callOn]
  cases c.struck? _ with
  | some e => rfl
  | none => simp [h]

theorem exec_replace {c : Cluster} {r : ρ} {space name : String} {a : α} {t : Table α}
    (h : (Stored.table c : Table α).replace space name a = .ok t) :
    ((store α).onLeft.replace space name a).exec (c, r) =
      let noted := c.noted (callOn α space name .replace)
      match c.struck? (callOn α space name .replace) with
      | some e => (.error e, (noted, r))
      | none => (.ok (), (Stored.withTable noted t, r)) := by
  simp only [store, Store.onLeft, Action.exec_onLeft, Action.exec_bind, exec_announce]
  rw [callOn]
  cases c.struck? _ with
  | some e => rfl
  | none => simp [h]

theorem exec_replace_refused {c : Cluster} {space name : String} {a : α} {e : Error}
    (h : (Stored.table c : Table α).replace space name a = .error e) (r : ρ) :
    ((store α).onLeft.replace space name a).exec (c, r) =
      (.error ((c.struck? (callOn α space name .replace)).getD e),
        (c.noted (callOn α space name .replace), r)) := by
  simp only [store, Store.onLeft, Action.exec_onLeft, Action.exec_bind, exec_announce]
  rw [callOn]
  cases c.struck? _ with
  | some e => rfl
  | none => simp [h]

theorem exec_delete (c : Cluster) (r : ρ) (space name : String) :
    ((store α).onLeft.delete space name).exec (c, r) =
      let noted := c.noted (callOn α space name .delete)
      match c.struck? (callOn α space name .delete) with
      | some e => (.error e, (noted, r))
      | none =>
        (.ok (), (Stored.withTable noted ((Stored.table c : Table α).delete space name), r)) := by
  simp only [store, Store.onLeft, Action.exec_onLeft, Action.exec_bind, exec_announce]
  rw [callOn]
  cases c.struck? _ with
  | some e => rfl
  | none => simp

end Stored

end ServiceBinding.Cluster
