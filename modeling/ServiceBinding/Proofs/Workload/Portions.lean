import ServiceBinding.Proofs.Workload.Holding

/-!
What a volume takes from which object. A volume is a list of portions, each with the items that it
takes from one secret or config map. A portion that is merged into a volume goes into the first one
over the same object, or comes last if there is none (`joined_mergeVolume`). So of the lists of
items over an object, only the first one grows, by all that are added (`JoinedAll.lists`), and each
volume of a pod is the first that was added under its name, with the portions of all later ones
joined to it (`gathered_forEach_addVolume`).
-/
namespace ServiceBinding
open Object

/-- An object that files are taken from. -/
inductive Object.Origin where
  | secret (name : Option String)
  | configMap (name : String)
deriving DecidableEq, Repr

/-- Items that are taken from one object. -/
structure Object.Portion where
  origin : Origin
  items : List Item
deriving DecidableEq, Repr

/-- The portions of a source of a projected volume. -/
def Object.ProjectedSource.portions (s : ProjectedSource) : List Portion :=
  (s.secret.toList.map fun o => ⟨.secret (some o.name), o.items.getD []⟩) ++
    s.configMap.toList.map fun o => ⟨.configMap o.name, o.items.getD []⟩

/-- The portions of a volume, by its kind. -/
def Object.Volume.portions (v : Volume) : List Portion :=
  match v.sourceKind? with
  | some .secret => v.secret.toList.map fun x => ⟨.secret x.secretName, x.items.getD []⟩
  | some .configMap => v.configMap.toList.map fun x => ⟨.configMap x.name, x.items.getD []⟩
  | some .projected => (v.sources?.getD []).flatMap ProjectedSource.portions
  | _ => []

/-- Whether no source of a projected volume is over a secret and a config map at once. -/
def Object.Volume.SingleSourced (v : Volume) : Prop :=
  ∀ s ∈ v.sources?.getD [], s.secret = none ∨ s.configMap = none

instance (v : Volume) : Decidable v.SingleSourced :=
  inferInstanceAs (Decidable (∀ s ∈ v.sources?.getD [], s.secret = none ∨ s.configMap = none))

namespace Workload

/-- The lists of items that portions take from an object. -/
def listsOver (o : Origin) (portions : List Portion) : List (List Item) :=
  (portions.filter (·.origin = o)).map (·.items)

section Over
variable {o : Origin} {p : Portion} {l l' : List Portion} {item : Item}

@[simp] theorem listsOver_nil (o : Origin) : listsOver o [] = [] := rfl

@[simp] theorem listsOver_append (o : Origin) (l l' : List Portion) :
    listsOver o (l ++ l') = listsOver o l ++ listsOver o l' := by
  rw [listsOver, List.filter_append, List.map_append]
  rfl

@[simp] theorem listsOver_cons (o : Origin) (p : Portion) (l : List Portion) :
    listsOver o (p :: l) = if p.origin = o then p.items :: listsOver o l else listsOver o l := by
  unfold listsOver
  by_cases h : p.origin = o <;> simp [h]

theorem mem_listsOver {items : List Item} : items ∈ listsOver o l ↔ ⟨o, items⟩ ∈ l := by
  unfold listsOver
  simp only [List.mem_map, List.mem_filter, decide_eq_true_eq]
  constructor
  · rintro ⟨⟨_, _⟩, ⟨hp, rfl⟩, rfl⟩
    exact hp
  · exact fun h => ⟨_, ⟨h, rfl⟩, rfl⟩

theorem listsOver_eq_nil (h : ∀ p ∈ l, p.origin ≠ o) : listsOver o l = [] := by
  rw [listsOver, List.filter_eq_nil_iff.2, List.map_nil]
  intro p hp
  simpa using h p hp

end Over

/-! ### One portion more -/

/-- How a portion goes into the first one over its object. -/
inductive Grew (context : String) (p : Portion) : List Portion → List Portion → Prop where
  | intro {before after : List Portion} {known grown : List Item}
      (first : ∀ q ∈ before, q.origin ≠ p.origin)
      (joined : (Merged.forEach (addItem context) known p.items).toResult = .ok grown) :
      Grew context p (before ++ ⟨p.origin, known⟩ :: after) (before ++ ⟨p.origin, grown⟩ :: after)

/-- How a portion joins others. -/
inductive Joined (context : String) (l : List Portion) (p : Portion) : List Portion → Prop where
  | grew {l'} (h : Grew context p l l') : Joined context l p l'
  | new (h : ∀ q ∈ l, q.origin ≠ p.origin) : Joined context l p (l ++ [p])

/-- How portions join others, one after the other. -/
inductive JoinedAll (context : String) : List Portion → List Portion → List Portion → Prop where
  | nil {l} : JoinedAll context l [] l
  | cons {l p mid rest l'} (first : Joined context l p mid)
      (others : JoinedAll context mid rest l') : JoinedAll context l (p :: rest) l'

section Joining
variable {context : String} {o : Origin} {p : Portion} {l l' mid added rest : List Portion}

theorem JoinedAll.append (h : JoinedAll context l added mid) (h' : JoinedAll context mid rest l') :
    JoinedAll context l (added ++ rest) l' := by
  induction h with
  | nil => exact h'
  | cons first _ ih => exact .cons first (ih h')

theorem Grew.head {items known grown : List Item}
    (joined : (Merged.forEach (addItem context) known items).toResult = .ok grown) :
    Grew context ⟨o, items⟩ (⟨o, known⟩ :: rest) (⟨o, grown⟩ :: rest) :=
  .intro (p := ⟨o, items⟩) (List.forall_mem_nil _) joined

theorem Grew.within {before after : List Portion} (h : Grew context p l l')
    (first : ∀ q ∈ before, q.origin ≠ p.origin) :
    Grew context p (before ++ l ++ after) (before ++ l' ++ after) := by
  obtain ⟨hfirst, joined⟩ := h
  simp only [List.append_assoc, List.cons_append]
  rw [← List.append_assoc, ← List.append_assoc before]
  refine .intro (fun q hq => ?_) joined
  rcases List.mem_append.1 hq with hq | hq
  · exact first q hq
  · exact hfirst q hq

/-- The list over the object of a portion that it has gone into. -/
theorem Grew.lists_self (h : Grew context p l l') : ∃ known grown others,
    listsOver p.origin l = known :: others ∧ listsOver p.origin l' = grown :: others ∧
      (Merged.forEach (addItem context) known p.items).toResult = .ok grown := by
  cases h with
  | @intro before after known grown first joined =>
    have hover (items : List Item) : listsOver p.origin
        (before ++ ⟨p.origin, items⟩ :: after) = items :: listsOver p.origin after := by
      rw [listsOver_append, listsOver_eq_nil first, listsOver_cons, if_pos rfl, List.nil_append]
    exact ⟨known, grown, _, hover known, hover grown, joined⟩

theorem Grew.lists_other (h : Grew context p l l') (ne : p.origin ≠ o) :
    listsOver o l' = listsOver o l := by
  obtain ⟨_, _⟩ := h
  rw [listsOver_append, listsOver_append, listsOver_cons, listsOver_cons, if_neg ne, if_neg ne]

theorem Joined.lists_other (h : Joined context l p l') (ne : p.origin ≠ o) :
    listsOver o l' = listsOver o l := by
  cases h with
  | grew h => exact h.lists_other ne
  | new => rw [listsOver_append, listsOver_cons, if_neg ne, listsOver_nil, List.append_nil]

/-- How lists of items become one. -/
inductive Unites (context : String) : List (List Item) → List (List Item) → Prop where
  | nil : Unites context [] []
  | cons {first others united}
      (joined : (Merged.forEach (addItem context) first others.flatten).toResult = .ok united) :
      Unites context (first :: others) [united]

theorem Unites.mem {lists united : List (List Item)} (h : Unites context lists united)
    (item : Item) : item ∈ united.flatten ↔ item ∈ lists.flatten := by
  cases h with
  | nil => exact Iff.rfl
  | cons joined =>
    rw [List.flatten_singleton, (forEach_addItem_eq_ok joined).1, List.flatten_cons,
      List.mem_append]

/-- An empty list comes only of empty ones. -/
theorem Unites.nil_mem {lists united : List (List Item)} (h : Unites context lists united) :
    [] ∈ united ↔ lists ≠ [] ∧ ∀ items ∈ lists, items = [] := by
  cases h with
  | nil => simp
  | @cons first others united joined =>
    have hmem := (forEach_addItem_eq_ok joined).1
    have hnil : united = [] ↔ first = [] ∧ others.flatten = [] := by
      simp only [List.eq_nil_iff_forall_not_mem, hmem, not_or, forall_and]
    rw [List.mem_singleton, eq_comm, hnil, List.flatten_eq_nil_iff, List.forall_mem_cons]
    simp

/-- **Portions over an object**: of the lists that were there the first one is united with all that
are added, and the others stay as they are. -/
theorem JoinedAll.lists (h : JoinedAll context l added l') (o : Origin) : ∃ united,
    Unites context ((listsOver o l).take 1 ++ listsOver o added) united ∧
      listsOver o l' = united ++ (listsOver o l).drop 1 := by
  induction h with
  | @nil l =>
    cases hl : listsOver o l with
    | nil => exact ⟨[], .nil, rfl⟩
    | cons known others => exact ⟨[known], .cons rfl, rfl⟩
  | @cons l p mid rest l' first _ ih =>
    obtain ⟨united, hunited, hover⟩ := ih
    rw [hover, listsOver_cons]
    by_cases ho : p.origin = o
    · subst ho
      rw [if_pos rfl]
      cases first with
      | grew h =>
        obtain ⟨known, grown, others, hl, hmid, hjoined⟩ := h.lists_self
        rw [hmid] at hunited ⊢
        rw [hl]
        refine ⟨united, ?_, rfl⟩
        cases hunited with
        | cons hrest => exact .cons (Merged.forEach_append_eq_ok.2 ⟨grown, hjoined, hrest⟩)
      | new h =>
        rw [listsOver_append, listsOver_eq_nil h, listsOver_cons, if_pos rfl, listsOver_nil]
          at hunited ⊢
        exact ⟨united, hunited, rfl⟩
    · rw [if_neg ho, first.lists_other ho] at *
      exact ⟨united, hunited, rfl⟩

/-- Portions that have been joined have all items that they had before, and no other. -/
theorem JoinedAll.mem (h : JoinedAll context l added l') (o : Origin) (item : Item) :
    item ∈ (listsOver o l').flatten ↔
      item ∈ (listsOver o l).flatten ∨ item ∈ (listsOver o added).flatten := by
  obtain ⟨first, hfirst, hlists⟩ := h.lists o
  rw [hlists, List.flatten_append, List.mem_append, hfirst.mem, List.flatten_append,
    List.mem_append, or_right_comm, ← List.mem_append, ← List.flatten_append, List.take_append_drop]

end Joining

/-! ### Sources of a projected volume -/

section Sources
variable {context : String} {a s known merged : ProjectedSource}
  {sources sources' added : List ProjectedSource}

theorem mergeItems_joined {x y merged : Option (List Item)}
    (h : (mergeItems context x y).toResult = .ok merged) :
    (Merged.forEach (addItem context) (x.getD []) (y.getD [])).toResult = .ok (merged.getD []) := by
  unfold mergeItems at h
  rw [Merged.toResult_within, map_eq_ok] at h
  obtain ⟨items, h, rfl⟩ := h
  exact h

/-- A source over one object is looked for by that object, and its items go into the portion over
it; a source without items is looked for as a whole. -/
inductive Portioned (s : ProjectedSource) : Prop where
  | one (p : Portion) (portions : s.portions = [p])
      (same : ∀ a, isSameObject a s = true ↔ ∃ q ∈ a.portions, q.origin = p.origin)
      (merge : ∀ context known merged, isSameObject known s = true →
        (mergeSource context known s).toResult = .ok merged →
        Grew context p known.portions merged.portions)
  | none (portions : s.portions = []) (same : ∀ a, isSameObject a s = (a == s))
      (merge : ∀ context known merged, (mergeSource context known s).toResult = .ok merged →
        merged = known)

section Single
variable (y : ObjectItems) (token : Option TokenSource) (downward : Option DownwardSource)
  (bundle : Option TrustBundle)

theorem portioned_secret : Portioned ⟨some y, none, token, downward, bundle⟩ := by
  refine .one ⟨.secret (some y.name), y.items.getD []⟩ rfl (fun a => ?_)
    fun context known merged hsame h => ?_
  · obtain ⟨secret, configMap, _, _, _⟩ := a
    cases secret <;> cases configMap <;> simp [isSameObject, Object.ProjectedSource.portions]
  · obtain ⟨_ | x, configMap, token', downward', bundle'⟩ := known
    · cases configMap <;> simp [isSameObject] at hsame
    have hname : x.name = y.name := by simpa [isSameObject] using hsame
    rw [mergeSource, Merged.toResult_within, map_eq_ok] at h
    obtain ⟨items, h, rfl⟩ := h
    show Grew context _ (⟨.secret (some x.name), x.items.getD []⟩ :: _)
      (⟨.secret (some x.name), items.getD []⟩ :: _)
    rw [hname]
    exact .head (mergeItems_joined h)

theorem portioned_configMap : Portioned ⟨none, some y, token, downward, bundle⟩ := by
  refine .one ⟨.configMap y.name, y.items.getD []⟩ rfl (fun a => ?_)
    fun context known merged hsame h => ?_
  · obtain ⟨secret, configMap, _, _, _⟩ := a
    cases secret <;> cases configMap <;> simp [isSameObject, Object.ProjectedSource.portions]
  · obtain ⟨secret, _ | x, token', downward', bundle'⟩ := known
    · cases secret <;> simp [isSameObject] at hsame
    have hname : x.name = y.name := by cases secret <;> simpa [isSameObject] using hsame
    have hmerge : mergeSource context ⟨secret, some x, token', downward', bundle'⟩
        ⟨none, some y, token, downward, bundle⟩ =
          (mergeItems context x.items y.items).within fun items =>
            ⟨secret, some { x with items := items }, token', downward', bundle'⟩ := by
      cases secret <;> rfl
    rw [hmerge, Merged.toResult_within, map_eq_ok] at h
    obtain ⟨items, h, rfl⟩ := h
    show Grew context _ (_ ++ [⟨.configMap x.name, x.items.getD []⟩])
      (_ ++ [⟨.configMap x.name, items.getD []⟩])
    rw [hname]
    refine .intro (p := ⟨.configMap y.name, y.items.getD []⟩) (fun q hq => ?_) (mergeItems_joined h)
    obtain ⟨_, _, rfl⟩ := List.mem_map.1 hq
    intro same
    cases same

end Single

theorem portioned (single : s.secret = none ∨ s.configMap = none) : Portioned s := by
  obtain ⟨secret, configMap, token, downward, bundle⟩ := s
  rcases secret with _ | y <;> rcases configMap with _ | z
  · refine .none rfl (fun a => ?_) fun context known merged h => ?_
    · obtain ⟨secret, configMap, _, _, _⟩ := a
      cases secret <;> cases configMap <;> rfl
    · have hmerge : mergeSource context known ⟨none, none, token, downward, bundle⟩ =
          if known = ⟨none, none, token, downward, bundle⟩ then .done known
          else .failed known
            (.configuration context "conflicting projected volume sources") := by
        unfold mergeSource
        cases known.secret <;> cases known.configMap <;> rfl
      rw [hmerge] at h
      split at h <;> cases h
      rfl
  · exact portioned_configMap z token downward bundle
  · exact portioned_secret y token downward bundle
  · exact absurd single (by simp)

/-- The portions of a source that is added join those that were there. -/
theorem joined_addSource (single : s.secret = none ∨ s.configMap = none)
    (h : (addSource context sources s).toResult = .ok sources') :
    JoinedAll context (sources.flatMap (·.portions)) s.portions
      (sources'.flatMap (·.portions)) := by
  unfold addSource at h
  cases hfind : sources.find? (isSameObject · s) with
  | none =>
    rw [hfind] at h
    obtain rfl : sources ++ [s] = sources' := Except.ok.inj h
    rw [List.flatMap_append, List.flatMap_singleton]
    cases portioned single with
    | one p portions same =>
      rw [portions]
      refine .cons (.new fun q hq heq => ?_) .nil
      obtain ⟨a, ha, hq⟩ := List.mem_flatMap.1 hq
      exact List.find?_eq_none.1 hfind a ha ((same a).2 ⟨q, hq, heq⟩)
    | none portions =>
      rw [portions, List.append_nil]
      exact .nil
  | some known =>
    rw [hfind] at h
    dsimp only at h
    rw [Merged.toResult_within, map_eq_ok] at h
    obtain ⟨merged, hmerged, rfl⟩ := h
    obtain ⟨hknown, before, after, rfl, hfirst⟩ := exists_of_find? hfind
    rw [replaceFirst_append_cons (p := (isSameObject · s)) hfirst hknown]
    simp only [List.flatMap_append, List.flatMap_cons, ← List.append_assoc]
    cases portioned single with
    | one p portions same merge =>
      rw [portions]
      refine .cons (.grew ((merge context known merged hknown hmerged).within fun q hq heq => ?_))
        .nil
      obtain ⟨a, ha, hq⟩ := List.mem_flatMap.1 hq
      exact hfirst a ha ((same a).2 ⟨q, hq, heq⟩)
    | none portions _ merge =>
      rw [portions, merge context known merged hmerged]
      exact .nil

theorem joined_forEach_addSource (single : ∀ s ∈ added, s.secret = none ∨ s.configMap = none)
    (h : (Merged.forEach (addSource context) sources added).toResult = .ok sources') :
    JoinedAll context (sources.flatMap (·.portions)) (added.flatMap (·.portions))
      (sources'.flatMap (·.portions)) := by
  refine Merged.forEach_induction (R := fun before mid => JoinedAll context
    (sources.flatMap (·.portions)) (before.flatMap (·.portions)) (mid.flatMap (·.portions)))
    .nil ?_ h
  intro before s mid mid' hs joined hmid
  rw [List.flatMap_append, List.flatMap_singleton]
  exact joined.append (joined_addSource (single s hs) hmid)

end Sources

/-! ### Volumes -/

section Volumes
variable {known v merged : Volume} {pod pod' : PodSpec}

theorem portions_secret {x : SecretVolume} (kind : v.sourceKind? = some .secret)
    (h : v.secret = some x) : v.portions = [⟨.secret x.secretName, x.items.getD []⟩] := by
  rw [Object.Volume.portions, kind, h]
  rfl

theorem portions_configMap {x : ConfigMapVolume} (kind : v.sourceKind? = some .configMap)
    (h : v.configMap = some x) : v.portions = [⟨.configMap x.name, x.items.getD []⟩] := by
  rw [Object.Volume.portions, kind, h]
  rfl

theorem sources?_eq {x : ProjectedVolume} (h : v.projected = some x) : v.sources? = x.sources := by
  rw [Object.Volume.sources?, h]
  rfl

theorem portions_projected {x : ProjectedVolume} (kind : v.sourceKind? = some .projected)
    (h : v.projected = some x) : v.portions = (x.sources.getD []).flatMap (·.portions) := by
  rw [Object.Volume.portions, kind, sources?_eq h]

/-- A volume of another kind takes no files from secrets or config maps. -/
theorem portions_other {kind : SourceKind} (h : v.sourceKind? = some kind)
    (other : kind ≠ .secret ∧ kind ≠ .configMap ∧ kind ≠ .projected) : v.portions = [] := by
  unfold Object.Volume.portions
  rw [h]
  cases kind <;> simp_all

/-- The portions of a volume join those of the volume that it is merged into. -/
theorem joined_mergeVolume (single : v.SingleSourced)
    (h : (mergeVolume known v).toResult = .ok merged) :
    JoinedAll ("volume " ++ v.name) known.portions v.portions merged.portions := by
  cases mergeVolume_cases h with
  | secret kind kind' kept left right same merge eq =>
    subst eq
    rw [portions_secret kind left, portions_secret kind' right, portions_secret kept rfl, same]
    exact .cons (.grew (.head (mergeItems_joined merge))) .nil
  | configMap kind kind' kept left right same merge eq =>
    subst eq
    rw [portions_configMap kind left, portions_configMap kind' right, portions_configMap kept rfl,
      same]
    exact .cons (.grew (.head (mergeItems_joined merge))) .nil
  | projected kind kind' kept left right merge eq =>
    subst eq
    unfold mergeProjected at merge
    split at merge
    · cases merge
    rw [Merged.toResult_within, map_eq_ok] at merge
    obtain ⟨sources, hsources, rfl⟩ := merge
    rw [portions_projected kind left, portions_projected kind' right, portions_projected kept rfl]
    rw [Object.Volume.SingleSourced, sources?_eq right] at single
    exact joined_forEach_addSource single hsources
  | other kind' other same eq =>
    rw [eq, same, portions_other kind' other]
    exact .nil

theorem joined_addVolume (single : v.SingleSourced) (there : volume? pod v.name = some known)
    (h : (addVolume pod v).toResult = .ok pod') : ∃ united, volume? pod' v.name = some united ∧
      JoinedAll ("volume " ++ v.name) known.portions v.portions united.portions := by
  obtain ⟨united, hfound, ⟨free, -⟩ | ⟨first, hfirst, hmerge⟩⟩ := addVolume_eq_ok h
  · cases there.symm.trans free
  · cases there.symm.trans hfirst
    exact ⟨united, (hfound v.name).trans (if_pos rfl), joined_mergeVolume single hmerge⟩

end Volumes

/-! ### Several volumes -/

/-- What the volumes that were added under one name have become: none if there are none, else one
that has the portions of the first with those of all others joined to it. -/
inductive Gathered (name : String) : List Volume → Option Volume → Prop where
  | none : Gathered name [] none
  | some {first others united}
      (joined : JoinedAll ("volume " ++ name) first.portions (others.flatMap (·.portions))
        united.portions) : Gathered name (first :: others) (some united)

section Gathering
variable {pod pod' : PodSpec} {v : Volume} {before vs : List Volume}

theorem gathered_addVolume (single : v.SingleSourced)
    (gathered : ∀ name, Gathered name (before.filter (·.name == name)) (volume? pod name))
    (h : (addVolume pod v).toResult = .ok pod') (name : String) :
    Gathered name ((before ++ [v]).filter (·.name == name)) (volume? pod' name) := by
  obtain ⟨united, hfound, hunited⟩ := addVolume_eq_ok h
  have hgathered := gathered name
  rw [hfound, List.filter_append]
  by_cases hn : name = v.name
  · have heq : (v.name == name) = true := beq_iff_eq.2 hn.symm
    rw [if_pos hn, List.filter_singleton, heq, cond_true]
    generalize before.filter (·.name == name) = same at *
    obtain ⟨free, hv⟩ | ⟨known, hknown, hmerge⟩ := hunited
    · rw [hn, free] at hgathered
      cases hgathered
      rw [hv]
      exact .some .nil
    · rw [hn, hknown] at hgathered
      cases hgathered with
      | @some first others _ joined =>
        have hjoined := joined.append (joined_mergeVolume single hmerge)
        rw [← List.flatMap_singleton Object.Volume.portions v, ← List.flatMap_append, ← hn]
          at hjoined
        exact .some hjoined
  · have hne : (v.name == name) = false := beq_eq_false_iff_ne.2 fun h => hn h.symm
    rw [if_neg hn, List.filter_singleton, hne, cond_false, List.append_nil]
    exact hgathered

/-- Each volume of a pod is the first that was added under its name, with the portions of all later
ones joined to it. -/
theorem gathered_forEach_addVolume (single : ∀ v ∈ vs, v.SingleSourced)
    (empty : ∀ name, volume? pod name = none)
    (h : (Merged.forEach addVolume pod vs).toResult = .ok pod') (name : String) :
    Gathered name (vs.filter (·.name == name)) (volume? pod' name) := by
  refine Merged.forEach_induction (R := fun before mid => ∀ name,
    Gathered name (before.filter (·.name == name)) (volume? mid name)) (fun name => ?_) ?_ h name
  · rw [empty]
    exact .none
  · intro before v mid mid' hv gathered hmid
    exact gathered_addVolume (single v hv) gathered hmid

end Gathering

end Workload

end ServiceBinding
