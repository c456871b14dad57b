import Mathlib.Data.List.Nodup
import Mathlib.Data.List.Pairwise
import ServiceBinding.Proofs.Workload.Reuniting
import ServiceBinding.Proofs.Workload.Union

/-!
Which files of a mounted directory are claimed twice. Within one list of items no path comes twice,
whatever is merged into it. Between lists nothing is compared: sources over different objects may
claim one path, and so may two lists over one object that came with the first volume of a name. So
the volumes of a pod are free of double claims just where the volumes that were added under one name
are compatible (`forEach_addVolume_distinct`).
-/
namespace ServiceBinding.Workload
open Object

/-- Whether a volume maps no path twice. -/
def Distinct (v : Volume) : Prop :=
  ((v.portions.flatMap (·.items)).map (·.path)).Nodup

instance (v : Volume) : Decidable (Distinct v) :=
  inferInstanceAs (Decidable ((v.portions.flatMap (·.items)).map (·.path)).Nodup)

/-- Whether no path is of one list of items and of another one. -/
def PathsApart (items others : List Item) : Prop :=
  ∀ i ∈ items, ∀ j ∈ others, i.path ≠ j.path

/-- Whether two volumes take no path from different objects. -/
def Apart (v w : Volume) : Prop :=
  ∀ o o' i j, Takes v o i → Takes w o' j → i.path = j.path → o = o'

/-- Whether volumes that are added one after the other under one name claim no path twice: no path
is taken from two objects, and where the first volume has several lists over an object, no later one
takes from it a path that is in any but the first of them. -/
structure Compatible (first : Volume) (others : List Volume) : Prop where
  apart : (first :: others).Pairwise Apart
  spared : ∀ o, ∀ items ∈ (listsOver o first.portions).drop 1, ∀ w ∈ others, ∀ i, Takes w o i →
    ∀ j ∈ items, i.path ≠ j.path

/-! ### One volume -/

section Volumes
variable {v w : Volume} {o : Origin}

instance : Std.Symm Apart where
  symm _ _ h o o' i j hi hj he := (h o' o j i hj hi he.symm).symm

theorem takes_iff {item : Item} :
    Takes v o item ↔ ∃ items, ⟨o, items⟩ ∈ v.portions ∧ item ∈ items := by
  unfold Takes
  simp only [List.mem_flatten, mem_listsOver]

theorem pathsApart_iff {items others : List Item} :
    PathsApart items others ↔ (items.map (·.path)).Disjoint (others.map (·.path)) := by
  unfold PathsApart List.Disjoint
  simp only [List.mem_map]
  constructor
  · rintro h _ ⟨i, hi, rfl⟩ ⟨j, hj, he⟩
    exact h i hi j hj he.symm
  · exact fun h i hi j hj he => h ⟨i, hi, rfl⟩ ⟨j, hj, he.symm⟩

/-- Portions share no path just if none over different objects do, and none over one object. -/
theorem pairwise_pathsApart_iff {l : List Portion} :
    l.Pairwise (fun p q => PathsApart p.items q.items) ↔
      (∀ p ∈ l, ∀ q ∈ l, p.origin ≠ q.origin → PathsApart p.items q.items) ∧
        ∀ o, (listsOver o l).Pairwise PathsApart := by
  constructor
  · intro h
    have : Std.Symm fun p q : Portion => PathsApart p.items q.items :=
      ⟨fun _ _ h i hi j hj he => h j hj i hi he.symm⟩
    exact ⟨fun p hp q hq ne => h.forall hp hq fun he => ne (congrArg Portion.origin he),
      fun o => List.pairwise_map.2 (h.filter _)⟩
  · rintro ⟨hother, hsame⟩
    induction l with
    | nil => exact .nil
    | cons p l ih =>
      refine .cons (fun q hq => ?_) (ih (fun p hp q hq => hother p (.tail _ hp) q (.tail _ hq)) ?_)
      · by_cases ho : p.origin = q.origin
        · have hp := hsame p.origin
          rw [listsOver_cons, if_pos rfl] at hp
          refine List.rel_of_pairwise_cons hp (mem_listsOver.2 ?_)
          rw [ho]
          exact hq
        · exact hother p List.mem_cons_self q (.tail _ hq) ho
      · intro o
        have ho := hsame o
        rw [listsOver_cons] at ho
        split at ho
        · exact ho.of_cons
        · exact ho

/-- No path comes twice just if none does in a list, in two lists over one object, or in lists over
two objects. -/
theorem distinct_iff : Distinct v ↔ (∀ p ∈ v.portions, (p.items.map (·.path)).Nodup) ∧
    Apart v v ∧ ∀ o, (listsOver o v.portions).Pairwise PathsApart := by
  have hapart : (∀ p ∈ v.portions, ∀ q ∈ v.portions, p.origin ≠ q.origin →
      PathsApart p.items q.items) ↔ Apart v v := by
    constructor
    · intro h o o' i j hi hj he
      obtain ⟨items, hp, hi⟩ := takes_iff.1 hi
      obtain ⟨items', hq, hj⟩ := takes_iff.1 hj
      by_contra hne
      exact h _ hp _ hq hne i hi j hj he
    · intro h p hp q hq hne i hi j hj he
      exact hne (h _ _ i j (takes_iff.2 ⟨_, hp, hi⟩) (takes_iff.2 ⟨_, hq, hj⟩) he)
  unfold Distinct
  rw [List.map_flatMap, List.nodup_flatMap, ← hapart, ← pairwise_pathsApart_iff]
  exact and_congr_right fun _ => List.Pairwise.iff fun p q => pathsApart_iff.symm

end Volumes

/-! ### Volumes that are united -/

section United
variable {context : String} {first united : Volume} {others : List Volume}

/-- Lists of items none of which has a path twice become one that has none twice. -/
theorem Unites.nodup {lists united : List (List Item)} (h : Unites context lists united)
    (nodup : ∀ items ∈ lists, (items.map (·.path)).Nodup) :
    ∀ items ∈ united, (items.map (·.path)).Nodup := by
  cases h with
  | nil => exact nodup
  | cons joined =>
    rw [List.forall_mem_singleton]
    exact (forEach_addItem_eq_ok joined).2 (nodup _ List.mem_cons_self)

theorem Unites.pairwise {lists united : List (List Item)} {r : List Item → List Item → Prop}
    (h : Unites context lists united) : united.Pairwise r := by
  cases h with
  | nil => exact .nil
  | cons => exact List.pairwise_singleton _ _

theorem mem_listsOver_flatMap {o : Origin} {items : List Item} :
    items ∈ listsOver o (others.flatMap (·.portions)) ↔
      ∃ w ∈ others, items ∈ listsOver o w.portions := by
  simp only [mem_listsOver, List.mem_flatMap]

/-- No list of items that volumes have become has a path twice. -/
theorem nodup_of_joined
    (joined : JoinedAll context first.portions (others.flatMap (·.portions)) united.portions)
    (nodup : ∀ v ∈ first :: others, ∀ p ∈ v.portions, (p.items.map (·.path)).Nodup) :
    ∀ p ∈ united.portions, (p.items.map (·.path)).Nodup := by
  intro p hp
  obtain ⟨lists, hunites, hlists⟩ := joined.lists p.origin
  have hover (v : Volume) (hv : v ∈ first :: others) :
      ∀ items ∈ listsOver p.origin v.portions, (items.map (·.path)).Nodup :=
    fun items hi => nodup v hv _ (mem_listsOver.1 hi)
  have hmem : p.items ∈ listsOver p.origin united.portions := mem_listsOver.2 hp
  rw [hlists, List.mem_append] at hmem
  rcases hmem with hmem | hmem
  · refine hunites.nodup (fun items hi => ?_) _ hmem
    rcases List.mem_append.1 hi with hi | hi
    · exact hover first List.mem_cons_self items (List.mem_of_mem_take hi)
    · obtain ⟨w, hw, hi⟩ := mem_listsOver_flatMap.1 hi
      exact hover w (.tail _ hw) items hi
  · exact hover first List.mem_cons_self _ (List.mem_of_mem_drop hmem)

theorem takes_flatMap {o : Origin} {item : Item} :
    item ∈ (listsOver o (others.flatMap (·.portions))).flatten ↔ ∃ w ∈ others, Takes w o item := by
  unfold Takes
  simp only [List.mem_flatten, mem_listsOver_flatMap]
  constructor
  · rintro ⟨items, ⟨w, hw, hi⟩, hitem⟩
    exact ⟨w, hw, items, hi, hitem⟩
  · rintro ⟨w, hw, items, hi, hitem⟩
    exact ⟨items, ⟨w, hw, hi⟩, hitem⟩

theorem takes_of_gathered
    (joined : JoinedAll context first.portions (others.flatMap (·.portions)) united.portions)
    (o : Origin) (item : Item) : Takes united o item ↔ ∃ v ∈ first :: others, Takes v o item := by
  rw [List.exists_mem_cons_iff, ← takes_flatMap]
  exact joined.mem o item

/-- Volumes become one that takes no path from two objects just if no two of them do. -/
theorem apart_self_iff
    (joined : JoinedAll context first.portions (others.flatMap (·.portions)) united.portions)
    (own : ∀ v ∈ first :: others, Apart v v) :
    Apart united united ↔ (first :: others).Pairwise Apart := by
  have htakes := takes_of_gathered joined
  constructor
  · intro h
    refine List.pairwise_of_forall_mem_list fun v hv w hw o o' i j hi hj he => ?_
    exact h o o' i j ((htakes o i).2 ⟨v, hv, hi⟩) ((htakes o' j).2 ⟨w, hw, hj⟩) he
  · intro h o o' i j hi hj he
    obtain ⟨v, hv, hi⟩ := (htakes o i).1 hi
    obtain ⟨w, hw, hj⟩ := (htakes o' j).1 hj
    exact h.forall_of_forall own hv hw o o' i j hi hj he

/-- The lists over an object share no path just if none that is added has one of a list that is not
the first. -/
theorem pairwise_lists_iff {o : Origin}
    (joined : JoinedAll context first.portions (others.flatMap (·.portions)) united.portions)
    (own : (listsOver o first.portions).Pairwise PathsApart) :
    (listsOver o united.portions).Pairwise PathsApart ↔
      ∀ items ∈ (listsOver o first.portions).drop 1, ∀ w ∈ others, ∀ i, Takes w o i →
        ∀ j ∈ items, i.path ≠ j.path := by
  obtain ⟨lists, hunites, hlists⟩ := joined.lists o
  rw [← List.take_append_drop 1 (listsOver o first.portions), List.pairwise_append] at own
  rw [hlists, List.pairwise_append]
  have hmem (i : Item) : i ∈ lists.flatten ↔
      i ∈ ((listsOver o first.portions).take 1).flatten ∨ ∃ w ∈ others, Takes w o i := by
    rw [hunites.mem, List.flatten_append, List.mem_append, takes_flatMap]
  constructor
  · rintro ⟨-, -, hcross⟩ items hitems w hw i hi j hj
    obtain ⟨list, hlist, hi⟩ := List.mem_flatten.1 ((hmem i).2 (.inr ⟨w, hw, hi⟩))
    exact hcross list hlist items hitems i hi j hj
  · intro hspared
    refine ⟨hunites.pairwise, own.2.1, fun list hlist items hitems i hi j hj => ?_⟩
    rcases (hmem i).1 (List.mem_flatten.2 ⟨list, hlist, hi⟩) with hfirst | ⟨w, hw, hi⟩
    · obtain ⟨list, hlist, hi⟩ := List.mem_flatten.1 hfirst
      exact own.2.2 list hlist items hitems i hi j hj
    · exact hspared items hitems w hw i hi j hj

/-- **One volume from several**: volumes none of which claims a path twice become one that does not
just if they are compatible. -/
theorem distinct_of_joined
    (joined : JoinedAll context first.portions (others.flatMap (·.portions)) united.portions)
    (own : ∀ v ∈ first :: others, Distinct v) :
    (∀ p ∈ united.portions, (p.items.map (·.path)).Nodup) ∧
      (Distinct united ↔ Compatible first others) := by
  have hnodup := nodup_of_joined joined fun v hv => (distinct_iff.1 (own v hv)).1
  have hapart := apart_self_iff joined fun v hv => (distinct_iff.1 (own v hv)).2.1
  have hlists (o : Origin) := pairwise_lists_iff joined
    ((distinct_iff.1 (own first List.mem_cons_self)).2.2 o)
  refine ⟨hnodup, distinct_iff.trans ⟨?_, ?_⟩⟩
  · rintro ⟨-, happ, hpairs⟩
    exact ⟨hapart.1 happ, fun o => (hlists o).1 (hpairs o)⟩
  · rintro ⟨happ, hspared⟩
    exact ⟨hnodup, hapart.2 happ, fun o => (hlists o).2 (hspared o)⟩

end United

/-! ### Pods -/

theorem names_forEach_addVolume {pod pod' : PodSpec} {vs : List Volume}
    (empty : pod.volumes.getD [] = [])
    (h : (Merged.forEach addVolume pod vs).toResult = .ok pod') :
    (pod'.volumes.getD []).map (·.name) = (vs.map (·.name)).eraseDups := by
  refine Merged.forEach_induction (R := fun before mid =>
    (mid.volumes.getD []).map (·.name) = (before.map (·.name)).eraseDups) ?_ ?_ h
  · rw [empty]
    rfl
  · intro before v mid mid' _ listed hmid
    rw [List.map_append]
    exact (names_addVolume hmid listed).2

/-- **No file of a mounted directory is claimed twice**: for every pod without volumes, and every
list of volumes that can be added to it one after the other and each of which maps no path twice
and has its sources over one object each, no list of items of a volume in the pod has a path twice.
No volume has a path twice in all of its lists just if all that were added under one name are
compatible. -/
theorem forEach_addVolume_distinct (pod pod' : PodSpec) (vs : List Volume)
    (empty : pod.volumes.getD [] = []) (own : ∀ v ∈ vs, v.SingleSourced ∧ Distinct v)
    (added : (Merged.forEach addVolume pod vs).toResult = .ok pod') :
    (∀ u ∈ pod'.volumes.getD [], ∀ p ∈ u.portions, (p.items.map (·.path)).Nodup) ∧
      ((∀ u ∈ pod'.volumes.getD [], Distinct u) ↔
        ∀ name first others, vs.filter (·.name == name) = first :: others →
          Compatible first others) := by
  have hgathered (name : String) :
      Gathered name (vs.filter (·.name == name)) (volume? pod' name) := by
    refine gathered_forEach_addVolume (fun v hv => (own v hv).1) (fun name => ?_) added name
    rw [volume?, empty]
    rfl
  have hjoined (u : Volume) (hu : u ∈ pod'.volumes.getD []) : ∃ first others,
      vs.filter (·.name == u.name) = first :: others ∧
        JoinedAll ("volume " ++ u.name) first.portions (others.flatMap (·.portions))
          u.portions := by
    have hnames := names_forEach_addVolume empty added
    have hfound : volume? pod' u.name = some u := find?_name_of_mem (hnames ▸ nodup_eraseDups _) hu
    have hu := hgathered u.name
    rw [hfound] at hu
    generalize vs.filter (·.name == u.name) = same at hu
    cases hu with
    | some joined => exact ⟨_, _, rfl, joined⟩
  have hown {name : String} {same : List Volume} (h : vs.filter (·.name == name) = same) :
      ∀ v ∈ same, Distinct v := fun v hv => (own v (List.mem_filter.1 (h ▸ hv)).1).2
  refine ⟨fun u hu => ?_, fun hdistinct name first others hfirst => ?_, fun hcompatible u hu => ?_⟩
  · obtain ⟨first, others, hfirst, joined⟩ := hjoined u hu
    exact (distinct_of_joined joined (hown hfirst)).1
  · have hu := hgathered name
    rw [hfirst] at hu
    generalize hfound : volume? pod' name = found at hu
    cases hu with
    | some joined =>
      exact (distinct_of_joined joined (hown hfirst)).2.1
        (hdistinct _ (List.mem_of_find?_eq_some hfound))
  · obtain ⟨first, others, hfirst, joined⟩ := hjoined u hu
    exact (distinct_of_joined joined (hown hfirst)).2.2 (hcompatible _ first others hfirst)

/-- Files of two secrets from three contributors are in one directory, each of them once. -/
theorem forEach_addVolume_distinct_files :
    let vs := [fileVolume [keysOf "db" ["user"]], fileVolume [keysOf "tls" ["crt"]],
      fileVolume [keysOf "db" ["user", "password"]]]
    let united := fileVolume [keysOf "db" ["user", "password"], keysOf "tls" ["crt"]]
    (∀ v ∈ vs, v.SingleSourced ∧ Distinct v) ∧
      (Merged.forEach addVolume {} vs).toResult = .ok { volumes := some [united] } ∧
      ∀ name first others, vs.filter (·.name == name) = first :: others →
        Compatible first others := by
  intro vs united
  have own : ∀ v ∈ vs, v.SingleSourced ∧ Distinct v := by decide
  have added : (Merged.forEach addVolume {} vs).toResult = .ok { volumes := some [united] } := by
    decide +kernel
  exact ⟨own, added, (forEach_addVolume_distinct {} _ vs rfl own added).2.1 (by decide)⟩

/-- A path that two contributors take from two secrets is claimed twice. -/
theorem not_distinct_crossed :
    let source (secret : String) : ProjectedSource :=
      { secret := some { name := secret, items := some [⟨"password", "auth", none⟩] } }
    let vs := [fileVolume [source "db"], fileVolume [source "smtp"]]
    let united := fileVolume [source "db", source "smtp"]
    (∀ v ∈ vs, v.SingleSourced ∧ Distinct v) ∧
      (Merged.forEach addVolume {} vs).toResult = .ok { volumes := some [united] } ∧
      ¬ Distinct united := by
  decide +kernel

end ServiceBinding.Workload
