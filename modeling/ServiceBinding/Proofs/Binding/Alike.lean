import ServiceBinding.Proofs.Binding.Sweeping
import ServiceBinding.Proofs.Convergence.Alike

/-!
The turn of a binding in two worlds. All that a turn sees of its world is the place of its secondary
secret, the answers to the calls on that place and the answers to its reads (`SameAnswers`). Where
these are the same it has the same result, and does the same to its secret.
-/
namespace ServiceBinding.Binding
open Cluster Convergence Crypto Object
variable {ρ : Type}

/-- How a reader answers some reads made one after the other. -/
def SourceReader.answers (reader : SourceReader ρ) (space : String) :
    List (SourceRef × Access) → ρ → List (Result Source)
  | [], _ => []
  | (ref, access) :: rest, r =>
    ((reader.read space ref.name access).exec r).1 ::
      reader.answers space rest ((reader.read space ref.name access).exec r).2

/-- Whether a reader answers by what it is asked alone, whatever state it is in. -/
def SourceReader.Steady (reader : SourceReader ρ) : Prop :=
  ∀ (space name : String) (access : Access) (r r' : ρ),
    ((reader.read space name access).exec r).1 = ((reader.read space name access).exec r').1

theorem SourceReader.Steady.answers {reader : SourceReader ρ} (steady : reader.Steady)
    (space : String) (refs : List (SourceRef × Access)) (r r' : ρ) :
    reader.answers space refs r = reader.answers space refs r' := by
  induction refs generalizing r r' with
  | nil => rfl
  | cons ref rest ih =>
    show _ :: _ = _ :: _
    rw [steady space ref.1.name ref.2 r r', ih]

/-- Whether the reads of a binding are answered alike in two states of the reader. -/
def ReadAlike (E : Equipment ρ) (i : Instance) (b : Binding) (r r' : ρ) : Prop :=
  ∀ expansion refs, expand b E.settings.mountBase = .ok expansion →
    check E.catalog expansion.binding = .ok refs →
      E.reader.answers (spaceOf i) refs r = E.reader.answers (spaceOf i) refs r'

/-- Whether a relation of the states of a reader outlasts each read. -/
def SourceReader.Keeps (reader : SourceReader ρ) (Q : ρ → ρ → Prop) : Prop :=
  ∀ (space name : String) (access : Access) (r r' : ρ), Q r r' →
    Q ((reader.read space name access).exec r).2 ((reader.read space name access).exec r').2

/-- A computation that comes first, its errors attributed to a binding, does not tell the states
apart. -/
theorem alike_attributed {σ α β : Type} {R : σ → σ → Prop} {s s' : σ}
    {binding : String} {r : Result α} {f : α → Action σ β} (related : R s s')
    (next : ∀ x, r = .ok x → (f x).Alike R s s') : (attributed binding r >>= f).Alike R s s' := by
  cases r with
  | error e => exact .throw _ related
  | ok x => exact next x rfl

section Turns
variable (E : Equipment ρ) (i : Instance) {b : Binding} {T : Table Secret → Table Secret → Prop}
  {Q : ρ → ρ → Prop} {space name : String} {c c' : Cluster} {r r' : ρ}

/-- The content kept is looked up alike, and the reader not asked. -/
theorem alike_kept (h : Local T space name) (uid : String) (m : Matched T space name c c')
    (q : Q r r') :
    (E.projector.kept space name uid).Alike
      (fun s s' => MatchedLeft T Q space name s s' ∧ s.2 = r ∧ s'.2 = r') (c, r) (c', r') := by
  unfold Action.Alike
  have hget : c.secrets.get? space name = c'.secrets.get? space name := h.get? m.tables
  rw [exec_kept, exec_kept, m.struck? .get, hget]
  exact ⟨rfl, ⟨m.noted .get, q⟩, rfl, rfl⟩

/-- Sources that are read alike are collected alike. -/
theorem alike_collect (keeps : E.reader.Keeps Q) {R : Cluster → Cluster → Prop}
    (binding : String) (kept : Dict Bytes) {sources : List (SourceRef × Access)} (k : Nat)
    (plan : Plan)
    (reads : E.reader.answers space sources r = E.reader.answers space sources r')
    (related : R c c') (q : Q r r') :
    (E.projector.collect space binding kept k plan sources).Alike
      (fun s s' => R s.1 s'.1 ∧ Q s.2 s'.2) (c, r) (c', r') := by
  induction sources generalizing k plan c c' r r' with
  | nil => exact .pure _ ⟨related, q⟩
  | cons source rest ih =>
    obtain ⟨hread, hrest⟩ := List.cons.inj reads
    rw [Projector.collect]
    refine Action.Alike.bind_of_imp (Q := fun s s' => (R s.1 s'.1 ∧ Q s.2 s'.2) ∧
      E.reader.answers space rest s.2 = E.reader.answers space rest s'.2) ?_ And.left ?_
    · unfold Action.Alike
      rw [E.exec_read, E.exec_read]
      exact ⟨hread, ⟨related, keeps _ _ _ _ _ q⟩, hrest⟩
    · rintro x ⟨t, u⟩ ⟨t', u'⟩ ⟨⟨related, q⟩, hrest⟩
      exact alike_attributed ⟨related, q⟩ fun plan _ => ih _ plan hrest related q

theorem alike_settle (binding uid : String) (content : Dict Bytes)
    (h : Local T (spaceOf i) (secondaryName i.name binding))
    (m : Matched T (spaceOf i) (secondaryName i.name binding) c c') (q : Q r r') :
    (E.projector.settle i binding uid content).Alike
      (MatchedLeft T Q (spaceOf i) (secondaryName i.name binding)) (c, r) (c', r') := by
  unfold Projector.settle
  dsimp only
  split
  · exact (alike_removeOwned h uid m q).bind fun _ _ _ m => .pure _ m
  · refine .bind_lift ⟨m, q⟩ fun wanted made => ?_
    exact (alike_ensure h compareSecret (secondarySecret_name made) m q).bind fun _ _ _ m =>
      .pure _ m

/-- Whether all that a binding asks for in its turn is answered alike in two states: the calls on
its secret by the faults, its reads by the reader. -/
structure SameAnswers (b : Binding) (s s' : Cluster × ρ) : Prop where
  called : AnsweredAlike Secret (spaceOf i) (secondaryName i.name b.name) s.1.faults s'.1.faults
  read : ReadAlike E i b s.2 s'.2

/-- A turn with the same answers has the same result. -/
theorem alike_project (keeps : E.reader.Keeps Q)
    (h : Local T (spaceOf i) (secondaryName i.name b.name)) (pod : PodSpec)
    {s s' : Cluster × ρ} (tables : T s.1.secrets s'.1.secrets) (q : Q s.2 s'.2)
    (same : SameAnswers E i b s s') :
    (E.projector.project i b pod).Alike
      (MatchedLeft T Q (spaceOf i) (secondaryName i.name b.name)) s s' := by
  obtain ⟨called, reads⟩ := same
  obtain ⟨c, r⟩ := s
  obtain ⟨c', r'⟩ := s'
  have m : Matched T (spaceOf i) (secondaryName i.name b.name) c c' := ⟨tables, called⟩
  have same : MatchedLeft T Q (spaceOf i) (secondaryName i.name b.name) (c, r) (c', r') := ⟨m, q⟩
  unfold Projector.project
  refine alike_attributed same fun expansion hexp => alike_attributed same fun refs hchk =>
    .bind_lift same fun uid _ => (alike_kept E h uid m q).bind_of_imp And.left ?_
  rintro kept ⟨t, u⟩ ⟨t', u'⟩ ⟨⟨m, q⟩, hu, hu'⟩
  obtain rfl : u = r := hu
  obtain rfl : u' = r' := hu'
  refine (alike_collect E keeps b.name kept 0 _ (reads expansion refs hexp hchk) m q).bind ?_
  rintro plan ⟨t, u⟩ ⟨t', u'⟩ ⟨m, q⟩
  refine alike_attributed ⟨m, q⟩ fun pod' _ => ?_
  exact (alike_settle E i b.name uid plan.content h m q).bind fun _ _ _ m => .pure _ m

end Turns

end ServiceBinding.Binding
