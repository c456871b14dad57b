import ServiceBinding.Proofs.Binding.Sweeping

/-!
Removing objects next to other clients. Before each call of the operator, other clients of the
cluster may create, replace and delete objects of the same kind (`crowded`). A removal looks first
and deletes afterwards, by name, so what it deletes need not be what it has seen: it is that, or
what another client has put in its place in between (`Traced`). So the object is the owner's unless
somebody has put one there that is not (`Deletion.Undisturbed`).
-/
namespace ServiceBinding.Cluster
open Binding Convergence Object
variable {α : Type}

/-! ### Other clients -/

/-- What another client asks of the stored objects of one kind. -/
inductive Write (α : Type) where
  | create (space : String) (a : α)
  | replace (space name : String) (a : α)
  | delete (space name : String)

/-- The place that a write is about. -/
def Write.place [Resource α] : Write α → String × String
  | .create space a => (space, Table.ownName a)
  | .replace space name _ => (space, name)
  | .delete space name => (space, name)

/-- The object that a write is to put in its place. -/
def Write.object? : Write α → Option α
  | .create _ a => some a
  | .replace _ _ a => some a
  | .delete _ _ => none

/-- What a write leaves of a table; a refused one leaves all of it. -/
def Table.after [Resource α] (t : Table α) : Write α → Table α
  | .create space a => (t.create space a).toOption.getD t
  | .replace space name a => (t.replace space name a).toOption.getD t
  | .delete space name => t.delete space name

/-- A deletion by the operator: its place, the object that was there at that moment, the table as
the operator had last looked at it, and what other clients have asked for since. -/
structure Deletion (α : Type) where
  space : String
  name : String
  object : α
  looked : Table α
  since : List (Write α)

/-- Whether all that other clients have put in the place of a deletion since the operator looked
belongs to an owner. -/
def Deletion.Undisturbed [Resource α] (d : Deletion α) (uid : String) : Prop :=
  ∀ w ∈ d.since, w.place = (d.space, d.name) →
    ∀ a ∈ w.object?, (Resource.metadata a).isOwnedBy uid = true

instance [Resource α] (d : Deletion α) (uid : String) : Decidable (d.Undisturbed uid) :=
  inferInstanceAs (Decidable (∀ w ∈ d.since, w.place = (d.space, d.name) →
    ∀ a ∈ w.object?, (Resource.metadata a).isOwnedBy uid = true))

/-- The other clients of a cluster: what they ask for before each of the calls to come, and what
has gone on record. -/
structure Crowd (α : Type) where
  turns : List (List (Write α))
  looked : Table α := {}
  since : List (Write α) := []
  /-- The deletions by the operator, the latest first. -/
  deletions : List (Deletion α) := []

namespace Crowd
variable (o : Crowd α) (t : Table α) (space name : String)

/-- The crowd after a look at a table. -/
def looking : Crowd α := { o with looked := t, since := [] }

/-- The crowd after a deletion from a table, which is one only if there is an object. -/
def recording : Crowd α :=
  match t.get? space name with
  | some object =>
    { o with deletions := ⟨space, name, object, o.looked, o.since⟩ :: o.deletions }
  | none => o

@[simp] theorem looked_recording : (o.recording t space name).looked = o.looked := by
  unfold recording
  split <;> rfl

@[simp] theorem since_recording : (o.recording t space name).since = o.since := by
  unfold recording
  split <;> rfl

theorem mem_deletions_recording {d : Deletion α} (h : d ∈ (o.recording t space name).deletions) :
    d ∈ o.deletions ∨
      ∃ a, t.get? space name = some a ∧ d = ⟨space, name, a, o.looked, o.since⟩ := by
  unfold recording at h
  split at h
  · next a ha => exact (List.mem_cons.1 h).symm.imp_right fun hd => ⟨a, ha, hd⟩
  · exact .inl h

end Crowd

section Crowded
variable [Stored α]

/-- The cluster after the next turn of the others. -/
def turned (s : Cluster × Crowd α) : Cluster × Crowd α :=
  let writes := s.2.turns.headD []
  (Stored.withTable s.1 (writes.foldl Table.after (Stored.table s.1)),
    { s.2 with turns := s.2.turns.tail, since := s.2.since ++ writes })

/-- Lets the others take their turn. -/
def interrupt : Action (Cluster × Crowd α) Unit := do
  set (turned (← get))

/-- Puts a look at the table on record. -/
def look : Action (Cluster × Crowd α) Unit := do
  let (c, o) ← get
  set (c, o.looking (Stored.table c))

/-- The stored objects of one kind, with other clients that take a turn before each call. -/
def crowded (α : Type) [Stored α] : Store (Cluster × Crowd α) α where
  get space name := do
    interrupt
    look
    (store α).onLeft.get space name
  list space selector := do
    interrupt
    look
    (store α).onLeft.list space selector
  create space a := do
    interrupt
    (store α).onLeft.create space a
  replace space name a := do
    interrupt
    (store α).onLeft.replace space name a
  delete space name := do
    interrupt
    let (before, _) ← get
    (store α).onLeft.delete space name
    let (after, o) ← get
    set (after, o.recording (Stored.table before) space name)

/-! ### Calls -/

/-- What the operator looks at: the table after the turn of the others. -/
def seen (s : Cluster × Crowd α) : Cluster × Crowd α :=
  ((turned s).1, (turned s).2.looking (Stored.table (turned s).1))

theorem exec_interrupt (s : Cluster × Crowd α) : interrupt.exec s = (.ok (), turned s) := by
  simp [interrupt, Action.exec_bind]

theorem exec_look (s : Cluster × Crowd α) :
    look.exec s = (.ok (), (s.1, s.2.looking (Stored.table s.1))) := by
  simp [look, Action.exec_bind]

theorem exec_crowded_get (s : Cluster × Crowd α) (space name : String) :
    ((crowded α).get space name).exec s = ((store α).onLeft.get space name).exec (seen s) := by
  simp [crowded, Action.exec_bind, exec_interrupt, exec_look, seen]

theorem exec_crowded_list (s : Cluster × Crowd α) (space selector : String) :
    ((crowded α).list space selector).exec s =
      ((store α).onLeft.list space selector).exec (seen s) := by
  simp [crowded, Action.exec_bind, exec_interrupt, exec_look, seen]

variable [LawfulStored α]

theorem exec_crowded_delete (s : Cluster × Crowd α) (space name : String) :
    ((crowded α).delete space name).exec s =
      let (c, o) := turned s
      let noted := c.noted (callOn α space name .delete)
      match c.struck? (callOn α space name .delete) with
      | some e => (.error e, (noted, o))
      | none =>
        (.ok (), (Stored.withTable noted ((Stored.table c : Table α).delete space name),
          o.recording (Stored.table c) space name)) := by
  simp only [crowded, Action.exec_bind, exec_interrupt, Action.exec_get]
  generalize turned s = t
  obtain ⟨c, o⟩ := t
  rw [exec_delete]
  cases c.struck? (callOn α space name .delete) <;> rfl

end Crowded

/-! ### Places -/

section Places
variable [Resource α]

/-- Whether a write puts an object in a place, apart from its version. -/
def Write.Puts (w : Write α) (space name : String) (a : α) : Prop :=
  w.place = (space, name) ∧ ∃ b ∈ w.object?,
    (Resource.metadata a).owners = (Resource.metadata b).owners

/-- Whether the object in a place is the one that was there when the operator looked, or one that
another client has put there since. -/
def Traced (looked : Table α) (since : List (Write α)) (space name : String) (a : α) : Prop :=
  looked.get? space name = some a ∨ ∃ w ∈ since, w.Puts space name a

/-- After a write, a place has the object that it had or the one that the write puts there. -/
theorem get?_after {t : Table α} {w : Write α} {space name : String} {a : α}
    (h : (t.after w).get? space name = some a) :
    t.get? space name = some a ∨ w.Puts space name a := by
  have hput {space' name' version : String} {b : α} (place : w.place = (space', name'))
      (object : w.object? = some b)
      (h : (t.put space' name' (Table.withVersion b version)).counted.get? space name = some a) :
      t.get? space name = some a ∨ w.Puts space name a := by
    rw [Table.get?_counted, Table.get?_put] at h
    split at h
    · next hp =>
      cases h
      refine .inr ⟨place.trans (by rw [hp.1, hp.2]), b, object, ?_⟩
      rw [Table.metadata_withVersion]
    · exact .inl h
  cases w with
  | create space' b =>
    unfold Table.after Table.create at h
    dsimp only at h
    split at h
    · exact .inl h
    · exact hput rfl rfl h
  | replace space' name' b =>
    unfold Table.after Table.replace at h
    dsimp only at h
    split at h
    · exact .inl h
    · split at h
      · exact .inl h
      · exact hput rfl rfl h
  | delete space' name' =>
    rw [Table.after, Table.get?_delete] at h
    split at h
    · cases h
    · exact .inl h

theorem traced_foldl_after {t : Table α} {writes : List (Write α)} {space name : String} {a : α}
    (h : (writes.foldl Table.after t).get? space name = some a) :
    Traced t writes space name a := by
  induction writes generalizing t with
  | nil => exact .inl h
  | cons w rest ih =>
    rcases ih h with h | ⟨w', hw', puts⟩
    · exact (get?_after h).imp_right fun puts => ⟨w, List.mem_cons_self, puts⟩
    · exact .inr ⟨w', List.mem_cons_of_mem _ hw', puts⟩

end Places

/-! ### Accounting for what is stored -/

section Accounts
variable [Stored α]

/-- Whether everything that is stored can be traced back to the operator's last look. -/
def Accounts (s : Cluster × Crowd α) : Prop :=
  ∀ space name a, (Stored.table s.1 : Table α).get? space name = some a →
    Traced s.2.looked s.2.since space name a

/-- Whether what a deletion has deleted can be traced back to what the operator had looked at. -/
def Deletion.Accounted (d : Deletion α) : Prop := Traced d.looked d.since d.space d.name d.object

/-- The object that the operator has seen is the one that it deletes, or its successors are the
owner's as well. -/
theorem Deletion.Accounted.isOwnedBy {d : Deletion α} (h : d.Accounted) {found : α} {uid : String}
    (there : d.looked.get? d.space d.name = some found)
    (owned : (Resource.metadata found).isOwnedBy uid = true) (undisturbed : d.Undisturbed uid) :
    (Resource.metadata d.object).isOwnedBy uid = true := by
  rcases h with h | ⟨w, hw, place, a, ha, same⟩
  · obtain rfl := Option.some.inj (h.symm.trans there)
    exact owned
  · have howned := undisturbed w hw place a ha
    unfold Meta.isOwnedBy Meta.ownerList at howned ⊢
    rwa [same]

variable [LawfulStored α]

theorem accounts_turned {s : Cluster × Crowd α} (h : Accounts s) : Accounts (turned s) := by
  intro space name a ha
  have hturn : ((s.2.turns.headD []).foldl Table.after (Stored.table s.1)).get? space name =
      some a := by
    simpa [turned] using ha
  rcases traced_foldl_after hturn with hbefore | ⟨w, hw, puts⟩
  · exact (h space name a hbefore).imp_right fun ⟨w, hw, puts⟩ =>
      ⟨w, List.mem_append_left _ hw, puts⟩
  · exact .inr ⟨w, List.mem_append_right _ hw, puts⟩

theorem accounts_noted {c : Cluster} {o : Crowd α} (h : Accounts (c, o)) (call : Call) :
    Accounts (c.noted call, o) := by
  intro space name a ha
  rw [table_noted] at ha
  exact h space name a ha

omit [LawfulStored α] in
theorem accounts_seen (s : Cluster × Crowd α) : Accounts (seen s) := fun _ _ _ => .inl

/-- What some deletions leave: the operator's last look is the one it was, what is stored is
accounted for, and what has been deleted since was under one of some names. -/
structure Deletes (space : String) (names : String → Prop) (s after : Cluster × Crowd α) : Prop where
  accounts : Accounts after
  looked : after.2.looked = s.2.looked
  deletions : ∀ d ∈ after.2.deletions, d ∈ s.2.deletions ∨
    d.space = space ∧ names d.name ∧ d.looked = s.2.looked ∧ d.Accounted

omit [LawfulStored α] in
theorem Deletes.refl {s : Cluster × Crowd α} (h : Accounts s) (space : String)
    (names : String → Prop) : Deletes space names s s :=
  ⟨h, rfl, fun _ => .inl⟩

omit [LawfulStored α] in
theorem Deletes.trans {space : String} {names names' : String → Prop}
    {s mid after : Cluster × Crowd α} (h : Deletes space names s mid)
    (h' : Deletes space names' mid after) :
    Deletes space (fun name => names name ∨ names' name) s after where
  accounts := h'.accounts
  looked := h'.looked.trans h.looked
  deletions d hd := by
    rcases h'.deletions d hd with hd | ⟨hs, hn, hl, ha⟩
    · exact (h.deletions d hd).imp_right fun ⟨hs, hn, hl, ha⟩ => ⟨hs, .inl hn, hl, ha⟩
    · exact .inr ⟨hs, .inr hn, hl.trans h.looked, ha⟩

omit [LawfulStored α] in
theorem Deletes.mono {space : String} {names names' : String → Prop} {s after : Cluster × Crowd α}
    (h : Deletes space names s after) (fewer : ∀ name, names name → names' name) :
    Deletes space names' s after where
  accounts := h.accounts
  looked := h.looked
  deletions d hd := (h.deletions d hd).imp_right fun ⟨hs, hn, hl, ha⟩ => ⟨hs, fewer _ hn, hl, ha⟩

/-- A call to delete leaves what is stored accounted for, and so is what it has deleted. -/
theorem deletes_delete {s : Cluster × Crowd α} (h : Accounts s) (space name : String) :
    Deletes space (· = name) s (((crowded α).delete space name).exec s).2 := by
  have hturned := accounts_turned h
  have hlooked : (turned s).2.looked = s.2.looked := rfl
  have hdeletions : (turned s).2.deletions = s.2.deletions := rfl
  rw [exec_crowded_delete]
  generalize turned s = t at hturned hlooked hdeletions
  obtain ⟨c, o⟩ := t
  dsimp only at hlooked hdeletions ⊢
  cases c.struck? (callOn α space name .delete) with
  | some e =>
    exact ⟨accounts_noted hturned _, hlooked, fun d hd => .inl (hdeletions ▸ hd)⟩
  | none =>
    refine ⟨fun space' name' a ha => ?_, by simpa using hlooked, fun d hd => ?_⟩
    · dsimp only at ha ⊢
      rw [LawfulStored.table_withTable, Table.get?_delete] at ha
      rw [Crowd.looked_recording, Crowd.since_recording]
      split at ha
      · cases ha
      · exact hturned space' name' a ha
    · rcases o.mem_deletions_recording _ _ _ hd with hd | ⟨a, ha, rfl⟩
      · exact .inl (hdeletions ▸ hd)
      · exact .inr ⟨rfl, rfl, hlooked, hturned _ _ a ha⟩

end Accounts

/-! ### Removals -/

theorem deletes_deleteAll (P : Projector (Cluster × Crowd Secret)) (space : String)
    (l : List Secret) {s : Cluster × Crowd Secret} (h : Accounts s) :
    Deletes space (fun name => ∃ x ∈ l, x.metadata.displayName = name) s
      (({ P with secrets := crowded Secret }.deleteAll space l).exec s).2 := by
  induction l generalizing s with
  | nil => exact .refl h _ _
  | cons x rest ih =>
    have first := deletes_delete h space x.metadata.displayName
    rw [Projector.deleteAll, Action.exec_bind]
    dsimp only
    generalize ((crowded Secret).delete space x.metadata.displayName).exec s = y at first
    obtain ⟨e | u, mid⟩ := y
    · exact first.mono fun name hn => ⟨x, List.mem_cons_self, hn.symm⟩
    · have others := ih first.accounts
      dsimp only
      rw [Action.exec_bind]
      have both := first.trans others
      have hnames : ∀ name, (name = x.metadata.displayName ∨
          ∃ x' ∈ rest, x'.metadata.displayName = name) →
            ∃ x' ∈ x :: rest, x'.metadata.displayName = name := by
        rintro name (rfl | ⟨x', hx', hn⟩)
        · exact ⟨x, List.mem_cons_self, rfl⟩
        · exact ⟨x', List.mem_cons_of_mem _ hx', hn⟩
      generalize ({ P with secrets := crowded Secret }.deleteAll space rest).exec mid = z at both
      obtain ⟨e | names, last⟩ := z <;> exact both.mono hnames

/-- What a removal of one object deletes. -/
theorem deletions_removeOwned [Stored α] [LawfulStored α] (space name uid : String) (c : Cluster)
    (turns : List (List (Write α))) :
    ∀ d ∈ ((removeOwned (crowded α) space name uid).exec (c, { turns := turns })).2.2.deletions,
      d.space = space ∧ d.name = name ∧ (∃ found, d.looked.get? space name = some found ∧
        (Resource.metadata found).isOwnedBy uid = true) ∧
          (d.Undisturbed uid → (Resource.metadata d.object).isOwnedBy uid = true) := by
  have hseen := accounts_seen (α := α) (c, { turns := turns })
  have hlooked : (seen (α := α) (c, { turns := turns })).2.looked =
    Stored.table (seen (α := α) (c, { turns := turns })).1 := rfl
  have hnone : ∀ d, d ∉ (seen (α := α) (c, { turns := turns })).2.deletions := fun _ h => nomatch h
  unfold removeOwned
  rw [Action.exec_bind, exec_crowded_get]
  generalize seen (α := α) (c, { turns := turns }) = s at hseen hnone hlooked
  obtain ⟨c, o⟩ := s
  dsimp only at hlooked hnone
  rw [exec_get]
  cases c.struck? (callOn α space name .get) with
  | some e => exact fun d hd => absurd hd (hnone d)
  | none =>
    dsimp only
    cases hget : (Stored.table c : Table α).get? space name with
    | none => exact fun d hd => absurd hd (hnone d)
    | some found =>
      dsimp only
      by_cases howned : (Resource.metadata found).isOwnedBy uid = true
      · rw [if_pos howned, Action.exec_bind]
        have deletes := deletes_delete (accounts_noted hseen (callOn α space name .get)) space name
        generalize ((crowded α).delete space name).exec _ = y at deletes
        have hafter : ∀ d ∈ y.2.2.deletions, d.space = space ∧ d.name = name ∧
            (∃ found, d.looked.get? space name = some found ∧
              (Resource.metadata found).isOwnedBy uid = true) ∧
                (d.Undisturbed uid → (Resource.metadata d.object).isOwnedBy uid = true) := by
          intro d hd
          obtain hd | ⟨hs, hn, hl, accounted⟩ := deletes.deletions d hd
          · exact absurd hd (hnone d)
          · have hfound : d.looked.get? space name = some found := by rw [hl, ← hget, ← hlooked]
            refine ⟨hs, hn, ⟨found, hfound, howned⟩, accounted.isOwnedBy ?_ howned⟩
            rw [hs, hn, hfound]
        obtain ⟨e | u, after⟩ := y <;> exact hafter
      · rw [if_neg howned]
        exact fun d hd => absurd hd (hnone d)

/-- What a cleaning up deletes. -/
theorem deletions_prune (P : Projector (Cluster × Crowd Secret)) (i : Instance) (c : Cluster)
    (turns : List (List (Write Secret))) :
    ∀ d ∈ (({ P with secrets := crowded Secret }.prune i).exec
        (c, { turns := turns })).2.2.deletions,
      d.space = spaceOf i ∧ ∃ uid found, i.metadata.uid = some uid ∧
        found ∈ leftovers i uid d.looked ∧ found.metadata.displayName = d.name ∧
          (d.looked.get? d.space d.name = some found → d.Undisturbed uid →
            d.object.metadata.isOwnedBy uid = true) := by
  have hseen := accounts_seen (α := Secret) (c, { turns := turns })
  have hlooked : (seen (α := Secret) (c, { turns := turns })).2.looked =
    (seen (α := Secret) (c, { turns := turns })).1.secrets := rfl
  have hnone : ∀ d, d ∉ (seen (α := Secret) (c, { turns := turns })).2.deletions :=
    fun _ h => nomatch h
  unfold Projector.prune
  rw [Action.exec_bind, Action.exec_lift]
  cases huid : Workload.ownerUid i with
  | error e => exact fun d hd => absurd hd (hnone d)
  | ok uid =>
    dsimp only
    rw [Action.exec_bind, exec_crowded_list]
    generalize seen (α := Secret) (c, { turns := turns }) = s at hseen hnone hlooked
    obtain ⟨c, o⟩ := s
    dsimp only at hlooked hnone
    rw [exec_list]
    cases c.struck? (callOn Secret (spaceOf i) (secondarySelector i.name) .list) with
    | some e => exact fun d hd => absurd hd (hnone d)
    | none =>
      dsimp only
      have deletes := deletes_deleteAll P (spaceOf i) (leftovers i uid c.secrets)
        (accounts_noted hseen (listing i))
      intro d hd
      obtain hd | ⟨hs, ⟨found, hfound, hn⟩, hl, accounted⟩ := deletes.deletions d hd
      · exact absurd hd (hnone d)
      · have howned : found.metadata.isOwnedBy uid = true :=
          (Bool.and_eq_true _ _ ▸ (List.mem_filter.1 hfound).2).2
        rw [← hlooked, ← hl] at hfound
        exact ⟨hs, uid, found, Workload.ownerUid_eq_ok.1 huid, hfound, hn,
          fun there => accounted.isOwnedBy there howned⟩

/-- **Undisturbed removals are the owner's**: whatever other clients ask for between the calls, a
removal deletes at the place it was asked for only, and only if it has seen an object of the
owner's there; a cleaning up deletes only under the names of leftovers that it has seen. What is
deleted is the owner's, unless another client has put an object there since that is not, or the
leftover that gave the name is stored under another one. -/
theorem isOwnedBy_of_undisturbed [Stored α] [LawfulStored α] (P : Projector (Cluster × Crowd Secret))
    (i : Instance) (space name uid : String) (c : Cluster) (turns : List (List (Write α)))
    (secretTurns : List (List (Write Secret))) :
    (∀ d ∈ ((removeOwned (crowded α) space name uid).exec (c, { turns := turns })).2.2.deletions,
      d.space = space ∧ d.name = name ∧ (∃ found, d.looked.get? space name = some found ∧
        (Resource.metadata found).isOwnedBy uid = true) ∧
          (d.Undisturbed uid → (Resource.metadata d.object).isOwnedBy uid = true)) ∧
    ∀ d ∈ (({ P with secrets := crowded Secret }.prune i).exec
        (c, { turns := secretTurns })).2.2.deletions,
      d.space = spaceOf i ∧ ∃ uid found, i.metadata.uid = some uid ∧
        found ∈ leftovers i uid d.looked ∧ found.metadata.displayName = d.name ∧
          (d.looked.get? d.space d.name = some found → d.Undisturbed uid →
            d.object.metadata.isOwnedBy uid = true) :=
  ⟨deletions_removeOwned space name uid c turns, deletions_prune P i c secretTurns⟩

/-! ### Between looking and deleting -/

/-- A secondary secret of an instance, which belongs to the object of some identity. -/
def secondaryOf (name generateName : Option String) (uid : String) : Secret where
  metadata := {
    name := name
    generateName := generateName
    space := some "prod"
    labels := some (.ofList [
      (Workload.instanceLabel, "nx"),
      (Workload.componentLabel, secondaryComponent)])
    owners := some [⟨"appzygy.net/v1alpha1", "Nuxeo", "nx", uid, some true, none⟩] }

/-- A cluster with some secrets. -/
def secretsStored (l : List Secret) : Cluster :=
  { secrets := l.foldl (·.seed "prod" ·) {} }

/-- An instance without bindings. -/
def unbound : Instance := { passwordMounted with spec := {} }

/-- A projector that reads nothing. -/
def sourceless : Projector (Cluster × Crowd Secret) :=
  (Equipment.standard (.shared {})).projector

/-- An object of the owner's is deleted and created again for the same owner. -/
theorem isOwnedBy_of_undisturbed_sameOwner :
    let c := secretsStored [secondaryOf (some "nx-secondary-db") none "u1"]
    let turns := [[], [.delete "prod" "nx-secondary-db",
      .create "prod" (secondaryOf (some "nx-secondary-db") none "u1")]]
    (∃ d ∈ ((removeOwned (crowded Secret) "prod" "nx-secondary-db" "u1").exec
        (c, { turns := turns })).2.2.deletions,
      d.Undisturbed "u1" ∧ d.object.metadata.isOwnedBy "u1" = true) ∧
    ∃ d ∈ (({ sourceless with secrets := crowded Secret }.prune unbound).exec
        (c, { turns := turns })).2.2.deletions,
      d.Undisturbed "u1" ∧ ∃ uid found, unbound.metadata.uid = some uid ∧
        found ∈ leftovers unbound uid d.looked ∧ found.metadata.displayName = d.name ∧
          (d.looked.get? d.space d.name = some found → d.Undisturbed uid →
            d.object.metadata.isOwnedBy uid = true) := by
  intro c turns
  have hremoved : ∃ d ∈ ((removeOwned (crowded Secret) "prod" "nx-secondary-db" "u1").exec
      (c, { turns := turns })).2.2.deletions, d.Undisturbed "u1" := by
    decide +kernel
  have hpruned : ∃ d ∈ (({ sourceless with secrets := crowded Secret }.prune unbound).exec
      (c, { turns := turns })).2.2.deletions, d.Undisturbed "u1" := by
    decide +kernel
  obtain ⟨d, hd, undisturbed⟩ := hremoved
  obtain ⟨d', hd', undisturbed'⟩ := hpruned
  obtain ⟨removes, prunes⟩ := isOwnedBy_of_undisturbed sourceless unbound "prod" "nx-secondary-db"
    "u1" c turns turns
  obtain ⟨_, _, _, howned⟩ := removes d hd
  exact ⟨⟨d, hd, undisturbed, howned undisturbed⟩, ⟨d', hd', undisturbed', (prunes d' hd').2⟩⟩

/-- An object is deleted and created again by somebody else behind the operator's look; or a
leftover without a name has the name of somebody else's object as the stem of its own. -/
theorem not_isOwnedBy_recreated :
    let c := secretsStored [secondaryOf (some "nx-secondary-db") none "u1"]
    let turns := [[], [.delete "prod" "nx-secondary-db",
      .create "prod" (secondaryOf (some "nx-secondary-db") none "u2")]]
    (∃ d ∈ ((removeOwned (crowded Secret) "prod" "nx-secondary-db" "u1").exec
        (c, { turns := turns })).2.2.deletions, d.object.metadata.isOwnedBy "u1" = false) ∧
    (∃ d ∈ (({ sourceless with secrets := crowded Secret }.prune unbound).exec
        (c, { turns := turns })).2.2.deletions, d.object.metadata.isOwnedBy "u1" = false) ∧
    ∃ d ∈ (({ sourceless with secrets := crowded Secret }.prune unbound).exec
        (secretsStored [secondaryOf none (some "victim") "u1", secondaryOf (some "victim") none "u2"],
          { turns := [] })).2.2.deletions, d.object.metadata.isOwnedBy "u1" = false := by
  decide +kernel

end ServiceBinding.Cluster
