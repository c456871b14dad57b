import ServiceBinding.Proofs.Workload.Listing

/-!
What lists of items and of sources hold. An item is held by a list in which it is the first one of
its key, and a source by a list whose first source over the same object has all of its items.
Whatever has been added is held from then on, whatever else is added, and adding what is held
changes nothing, except that absent lists of items become empty ones (`forEach_addSource_eq_ok`,
`forEach_addSource_of_has`).
-/
namespace ServiceBinding
open Object

/-! ### Volumes with their lists written out -/

/-- The files of an object, with an absent list of items as an empty one. -/
def Object.ObjectItems.listed (o : ObjectItems) : ObjectItems :=
  { o with items := some (o.items.getD []) }

/-- The files of a secret, with an absent list of items as an empty one. -/
def Object.SecretVolume.listed (v : SecretVolume) : SecretVolume :=
  { v with items := some (v.items.getD []) }

/-- The files of a config map, with an absent list of items as an empty one. -/
def Object.ConfigMapVolume.listed (v : ConfigMapVolume) : ConfigMapVolume :=
  { v with items := some (v.items.getD []) }

/-- A source of a projected volume, with absent lists of items as empty ones. -/
def Object.ProjectedSource.listed (s : ProjectedSource) : ProjectedSource :=
  { s with
    secret := s.secret.map ObjectItems.listed
    configMap := s.configMap.map ObjectItems.listed }

/-- A volume, with absent lists of items as empty ones. -/
def Object.Volume.listed (v : Volume) : Volume :=
  { v with
    secret := v.secret.map SecretVolume.listed
    configMap := v.configMap.map ConfigMapVolume.listed
    projected := v.projected.map fun p =>
      { p with sources := p.sources.map (·.map ProjectedSource.listed) } }

/-- A pod, with absent lists of items as empty ones. -/
def Object.PodSpec.listed (pod : PodSpec) : PodSpec :=
  { pod with volumes := pod.volumes.map (·.map Volume.listed) }

/-- The lists of items of a source. -/
def Object.ProjectedSource.itemLists (s : ProjectedSource) : List (List Item) :=
  (s.secret.toList ++ s.configMap.toList).map (·.items.getD [])

/-- The sources of a projected volume, if it lists any. -/
def Object.Volume.sources? (v : Volume) : Option (List ProjectedSource) :=
  v.projected.bind (·.sources)

/-- The lists of items of a volume. -/
def Object.Volume.itemLists (v : Volume) : List (List Item) :=
  v.secret.toList.map (·.items.getD []) ++ v.configMap.toList.map (·.items.getD []) ++
    (v.sources?.getD []).flatMap ProjectedSource.itemLists

/-- Whether none of some lists of items has a key twice. -/
def Keyed (lists : List (List Item)) : Prop :=
  ∀ items ∈ lists, (items.map (·.key)).Nodup

instance (lists : List (List Item)) : Decidable (Keyed lists) :=
  inferInstanceAs (Decidable (∀ items ∈ lists, (items.map (·.key)).Nodup))

namespace Workload

/-! ### Items -/

section Items
variable {context : String} {items items' added : List Item} {item : Item}

/-- Whether a list has each of some items, first of its key. -/
def Holds (items added : List Item) : Prop :=
  ∀ item ∈ added, items.find? (·.key == item.key) = some item

theorem Holds.self (nodup : (items.map (·.key)).Nodup) : Holds items items :=
  fun _ => find?_name_of_mem nodup

theorem addItem_of_there (there : items.find? (·.key == item.key) = some item) :
    addItem context items item = .done items := by
  unfold addItem
  rw [there]
  exact if_neg (by simp)

/-- An item that has been added is the first one of its key, and what was first stays so. -/
theorem addItem_first (h : (addItem context items item).toResult = .ok items') :
    items'.find? (·.key == item.key) = some item ∧
      ∀ key known, items.find? (·.key == key) = some known →
        items'.find? (·.key == key) = some known := by
  unfold addItem at h
  cases hkey : items.find? (·.key == item.key) with
  | some known =>
    rw [hkey] at h
    dsimp only at h
    split at h
    · cases h
    · next hsame =>
      cases h
      rw [not_or, not_not, not_not] at hsame
      have he : (known.key == item.key) = true :=
        List.find?_some (p := fun known : Item => known.key == item.key) hkey
      obtain ⟨key, path, mode⟩ := known
      obtain ⟨_, _, _⟩ := item
      obtain rfl := beq_iff_eq.1 he
      obtain ⟨rfl, rfl⟩ := hsame
      exact ⟨hkey, fun _ _ => id⟩
  | none =>
    rw [hkey] at h
    dsimp only at h
    split at h
    · cases h
    · cases h
      exact ⟨(find?_append_new hkey item.key).trans (if_pos rfl), fun _ _ => find?_append_of_some⟩

theorem forEach_addItem_first
    (h : (Merged.forEach (addItem context) items added).toResult = .ok items') :
    Holds items' added ∧ ∀ key known, items.find? (·.key == key) = some known →
      items'.find? (·.key == key) = some known := by
  refine Merged.forEach_induction (R := fun before mid => Holds mid before ∧
    ∀ key known, items.find? (·.key == key) = some known → mid.find? (·.key == key) = some known)
    ⟨fun _ => nofun, fun _ _ => id⟩ ?_ h
  rintro before item mid mid' - ⟨held, hkept⟩ hmid
  obtain ⟨hitem, hkept'⟩ := addItem_first hmid
  exact ⟨List.forall_mem_append.2
    ⟨fun other hother => hkept' _ _ (held other hother), List.forall_mem_singleton.2 hitem⟩,
    fun key known there => hkept' key known (hkept key known there)⟩

theorem forEach_addItem_of_holds (held : Holds items added) :
    Merged.forEach (addItem context) items added = .done items := by
  induction added with
  | nil => rfl
  | cons item rest ih =>
    obtain ⟨hitem, hrest⟩ := List.forall_mem_cons.1 held
    rw [Merged.forEach, addItem_of_there hitem]
    exact ih hrest

/-- Items that have been united with others are held, and so is all that those held. -/
theorem mergeItems_eq_ok {known added merged : Option (List Item)}
    (h : (mergeItems context known added).toResult = .ok merged) :
    Holds (merged.getD []) (added.getD []) ∧
      ∀ other, Holds (known.getD []) other → Holds (merged.getD []) other := by
  unfold mergeItems at h
  rw [Merged.toResult_within, map_eq_ok] at h
  obtain ⟨items, h, rfl⟩ := h
  obtain ⟨hheld, hkept⟩ := forEach_addItem_first h
  exact ⟨hheld, fun other held item hi => hkept _ _ (held item hi)⟩

theorem mergeItems_of_holds {known added : Option (List Item)}
    (held : Holds (known.getD []) (added.getD [])) :
    mergeItems context known added = .done (some (known.getD [])) := by
  unfold mergeItems
  rw [forEach_addItem_of_holds held]
  rfl

end Items

/-! ### Sources of a projected volume -/

/-- Whether a source has each item of another one, first of its key, where both are over secrets or
both are over config maps; any other source has only itself. -/
def Covers (known added : ProjectedSource) : Prop :=
  match known.secret, added.secret with
  | some x, some y => Holds (x.items.getD []) (y.items.getD [])
  | _, _ =>
    match known.configMap, added.configMap with
    | some x, some y => Holds (x.items.getD []) (y.items.getD [])
    | _, _ => known = added

/-- How two sources are compared: by the secrets they are over, else by the config maps they are
over, else as a whole. -/
inductive Pairing (a b : ProjectedSource) : Prop where
  | secrets {x y} (left : a.secret = some x) (right : b.secret = some y)
      (same : isSameObject a b = (x.name == y.name))
      (covers : Covers a b ↔ Holds (x.items.getD []) (y.items.getD []))
      (merge : ∀ context, mergeSource context a b = (mergeItems context x.items y.items).within
        fun items => { a with secret := some { x with items := items } })
  | configMaps {x y} (apart : a.secret = none ∨ b.secret = none) (left : a.configMap = some x)
      (right : b.configMap = some y)
      (same : isSameObject a b = (x.name == y.name))
      (covers : Covers a b ↔ Holds (x.items.getD []) (y.items.getD []))
      (merge : ∀ context, mergeSource context a b = (mergeItems context x.items y.items).within
        fun items => { a with configMap := some { x with items := items } })
  | neither (same : isSameObject a b = (a == b))
      (covers : Covers a b ↔ a = b)
      (merge : ∀ context, mergeSource context a b = if a = b then .done a else
        .failed a (.configuration context "conflicting projected volume sources"))

theorem pairing (a b : ProjectedSource) : Pairing a b := by
  by_cases hs : ∃ x y, a.secret = some x ∧ b.secret = some y
  · obtain ⟨x, y, ha, hb⟩ := hs
    exact .secrets ha hb (by rw [isSameObject, ha, hb]) (by rw [Covers, ha, hb])
      fun _ => by rw [mergeSource, ha, hb]
  have apart : a.secret = none ∨ b.secret = none := by
    cases ha : a.secret <;> cases hb : b.secret <;> simp_all
  by_cases hc : ∃ x y, a.configMap = some x ∧ b.configMap = some y
  · obtain ⟨x, y, ha, hb⟩ := hc
    refine .configMaps apart ha hb ?_ ?_ fun _ => ?_
    · unfold isSameObject; grind
    · unfold Covers; grind
    · unfold mergeSource; grind
  have apart' : a.configMap = none ∨ b.configMap = none := by
    cases ha : a.configMap <;> cases hb : b.configMap <;> simp_all
  refine .neither ?_ ?_ fun _ => ?_
  · unfold isSameObject; grind
  · unfold Covers; grind
  · unfold mergeSource; grind

/-- Whether the files of an object have grown. -/
def GrownItems (x y : ObjectItems) : Prop :=
  y.name = x.name ∧ ∀ other, Holds (x.items.getD []) other → Holds (y.items.getD []) other

/-- Whether a source has grown. -/
structure Grown (a b : ProjectedSource) : Prop where
  secret : Option.Rel GrownItems a.secret b.secret
  configMap : Option.Rel GrownItems a.configMap b.configMap
  plain : b.secret = none → b.configMap = none → b = a

section Sources
variable {context : String} {a a' b known added merged : ProjectedSource}

theorem isSameObject_self (s : ProjectedSource) : isSameObject s s = true := by
  cases pairing s s with
  | secrets left right same => rw [same, Option.some.inj (left.symm.trans right), beq_self_eq_true]
  | configMaps _ left right same =>
    rw [same, Option.some.inj (left.symm.trans right), beq_self_eq_true]
  | neither same => rw [same, beq_self_eq_true]

/-- A source whose own items have different keys covers itself. -/
theorem covers_self {s : ProjectedSource} (keyed : Keyed s.itemLists) : Covers s s := by
  have hkeys : ∀ o : ObjectItems, s.secret = some o ∨ s.configMap = some o →
      ((o.items.getD []).map (·.key)).Nodup := by
    intro o ho
    refine keyed _ (List.mem_map.2 ⟨o, List.mem_append.2 ?_, rfl⟩)
    simpa only [Option.mem_toList] using ho
  cases pairing s s with
  | secrets left right _ covers =>
    cases left.symm.trans right
    exact covers.2 (.self (hkeys _ (.inl left)))
  | configMaps _ left right _ covers =>
    cases left.symm.trans right
    exact covers.2 (.self (hkeys _ (.inr left)))
  | neither _ covers => exact covers.2 rfl

theorem isSameObject_of_grown (h : Grown a a') (b : ProjectedSource) :
    isSameObject a' b = isSameObject a b := by
  obtain ⟨hs, hc, plain⟩ := h
  obtain ⟨as, ac, _, _, _⟩ := a
  obtain ⟨as', ac', _, _, _⟩ := a'
  obtain ⟨bs, bc, _, _, _⟩ := b
  cases hs <;> cases hc <;> cases bs <;> cases bc <;> simp_all [isSameObject, GrownItems]

theorem covers_of_grown (h : Grown a a') (b : ProjectedSource) (covers : Covers a b) :
    Covers a' b := by
  obtain ⟨hs, hc, plain⟩ := h
  obtain ⟨as, ac, _, _, _⟩ := a
  obtain ⟨as', ac', _, _, _⟩ := a'
  obtain ⟨bs, bc, _, _, _⟩ := b
  cases hs <;> cases hc <;> cases bs <;> cases bc <;> simp_all [Covers, GrownItems]

theorem grownItems_refl (x : ObjectItems) : GrownItems x x := ⟨rfl, fun _ => id⟩

theorem rel_grownItems_refl (x : Option ObjectItems) : Option.Rel GrownItems x x := by
  cases x with
  | none => exact .none
  | some x => exact .some (grownItems_refl x)

theorem Grown.refl (a : ProjectedSource) : Grown a a :=
  ⟨rel_grownItems_refl _, rel_grownItems_refl _, fun _ _ => rfl⟩

/-- A source into which another one over the same object has been merged covers that one, and has
only grown. -/
theorem mergeSource_eq_ok (h : (mergeSource context known added).toResult = .ok merged) :
    Grown known merged ∧ Covers merged added := by
  cases pairing known added with
  | @secrets x y left right _ _ merge =>
    rw [merge, Merged.toResult_within, map_eq_ok] at h
    obtain ⟨items, h, rfl⟩ := h
    obtain ⟨hheld, hkept⟩ := mergeItems_eq_ok h
    refine ⟨⟨?_, rel_grownItems_refl _, nofun⟩, ?_⟩
    · rw [left]
      exact .some ⟨rfl, hkept⟩
    · unfold Covers
      rw [right]
      exact hheld
  | @configMaps x y apart left right _ _ merge =>
    rw [merge, Merged.toResult_within, map_eq_ok] at h
    obtain ⟨items, h, rfl⟩ := h
    obtain ⟨hheld, hkept⟩ := mergeItems_eq_ok h
    refine ⟨⟨rel_grownItems_refl _, ?_, nofun⟩, ?_⟩
    · rw [left]
      exact .some ⟨rfl, hkept⟩
    · unfold Covers
      rw [right]
      rcases apart with hs | hs
      · rw [hs]
        exact hheld
      · rw [hs]
        cases known.secret <;> exact hheld
  | neither _ covers merge =>
    rw [merge] at h
    split at h
    · next he =>
      cases h
      exact ⟨.refl _, covers.2 he⟩
    · cases h

/-- Merging what is covered changes nothing but absent lists. -/
theorem mergeSource_of_covers (context : String) (h : Covers known added) :
    ∃ again, mergeSource context known added = .done again ∧ again.listed = known.listed := by
  cases pairing known added with
  | @secrets x y left right _ covers merge =>
    rw [merge, mergeItems_of_holds (covers.1 h)]
    refine ⟨_, rfl, ?_⟩
    unfold Object.ProjectedSource.listed
    rw [left]
    rfl
  | @configMaps x y _ left right _ covers merge =>
    rw [merge, mergeItems_of_holds (covers.1 h)]
    refine ⟨_, rfl, ?_⟩
    unfold Object.ProjectedSource.listed
    rw [left]
    rfl
  | neither _ covers merge =>
    exact ⟨known, (merge _).trans (if_pos (covers.1 h)), rfl⟩

theorem rel_grownItems_of_listed {x y : Option ObjectItems}
    (h : x.map ObjectItems.listed = y.map ObjectItems.listed) : Option.Rel GrownItems x y := by
  cases x <;> cases y
  · exact .none
  · cases h
  · cases h
  · next x y =>
    obtain ⟨hname, hitems, _⟩ := ObjectItems.mk.inj (Option.some.inj h)
    refine .some ⟨hname.symm, fun other held => ?_⟩
    rw [← Option.some.inj hitems]
    exact held

/-- What differs only in absent lists has only grown. -/
theorem grown_of_listed (h : a.listed = b.listed) : Grown a b := by
  obtain ⟨hs, hc, _, _, _⟩ := ProjectedSource.mk.inj h
  refine ⟨rel_grownItems_of_listed hs, rel_grownItems_of_listed hc, fun hb hb' => ?_⟩
  obtain ⟨_, _, _, _, _⟩ := a
  obtain ⟨_, _, _, _, _⟩ := b
  simp_all

theorem listed_listed (a : ProjectedSource) : a.listed.listed = a.listed := by
  obtain ⟨secret, configMap, _, _, _⟩ := a
  cases secret <;> cases configMap <;> rfl

/-! ### Lists of sources -/

/-- Whether a list has a source: the first one over the same object covers it. -/
def HasSource (sources : List ProjectedSource) (s : ProjectedSource) : Prop :=
  ∃ first, sources.find? (isSameObject · s) = some first ∧ Covers first s

variable {sources sources' : List ProjectedSource} {s : ProjectedSource}

/-- A source that has been added is there, and so is each that was. -/
theorem addSource_eq_ok (keyed : Keyed s.itemLists)
    (h : (addSource context sources s).toResult = .ok sources') :
    HasSource sources' s ∧ ∀ other, HasSource sources other → HasSource sources' other := by
  unfold addSource at h
  cases hfind : sources.find? (isSameObject · s) with
  | none =>
    rw [hfind] at h
    cases h
    refine ⟨⟨s, ?_, covers_self keyed⟩, fun other ⟨first, there, covers⟩ =>
      ⟨first, find?_append_of_some there, covers⟩⟩
    show (sources ++ [s]).find? (isSameObject · s) = some s
    rw [List.find?_append, hfind, Option.none_or, List.find?_singleton,
      if_pos (isSameObject_self s)]
  | some known =>
    rw [hfind] at h
    dsimp only at h
    rw [Merged.toResult_within, map_eq_ok] at h
    obtain ⟨merged, hm, rfl⟩ := h
    obtain ⟨hgrown, hcovers⟩ := mergeSource_eq_ok hm
    have hknown : isSameObject known s = true :=
      List.find?_some (p := fun known => isSameObject known s) hfind
    refine ⟨⟨merged, find?_replaceFirst hfind ?_, hcovers⟩, fun other ⟨first, there, covers⟩ => ?_⟩
    · rw [isSameObject_of_grown hgrown, hknown]
    · rcases find?_replaceFirst_cases (q := (isSameObject · other)) hfind
        (isSameObject_of_grown hgrown other) with hsame | ⟨hold, hnew⟩
      · exact ⟨first, hsame.trans there, covers⟩
      · rw [there] at hold
        cases hold
        exact ⟨merged, hnew, covers_of_grown hgrown other covers⟩

theorem forEach_addSource_eq_ok {added : List ProjectedSource}
    (keyed : ∀ s ∈ added, Keyed s.itemLists)
    (h : (Merged.forEach (addSource context) sources added).toResult = .ok sources') :
    (∀ s ∈ added, HasSource sources' s) ∧
      ∀ other, HasSource sources other → HasSource sources' other := by
  refine Merged.forEach_induction (R := fun before mid => (∀ s ∈ before, HasSource mid s) ∧
    ∀ other, HasSource sources other → HasSource mid other) ⟨fun _ => nofun, fun _ => id⟩ ?_ h
  rintro before s mid mid' hs ⟨hthere, hkept⟩ hmid
  obtain ⟨hnew, hkept'⟩ := addSource_eq_ok (keyed s hs) hmid
  exact ⟨List.forall_mem_append.2
    ⟨fun other hother => hkept' other (hthere other hother), List.forall_mem_singleton.2 hnew⟩,
    fun other there => hkept' other (hkept other there)⟩

/-- Lists of sources that differ only in absent lists of items have the same sources. -/
theorem hasSource_of_listed (h : sources.map (·.listed) = sources'.map (·.listed))
    (there : HasSource sources s) : HasSource sources' s := by
  obtain ⟨first, hfirst, covers⟩ := there
  have hcomp : (isSameObject · s) ∘ ProjectedSource.listed = (isSameObject · s) :=
    funext fun a => isSameObject_of_grown (grown_of_listed (listed_listed a).symm) s
  have := congrArg (List.find? (isSameObject · s)) h
  rw [List.find?_map, List.find?_map, hcomp, hfirst] at this
  obtain ⟨first', hfirst', he⟩ := Option.map_eq_some_iff.1 this.symm
  exact ⟨first', hfirst', covers_of_grown (grown_of_listed he.symm) s covers⟩

/-- Where all sources are over different objects, each is the first one over its own. -/
theorem find?_sameObject (apart : sources.Pairwise (isSameObject · · = false)) (h : s ∈ sources) :
    sources.find? (isSameObject · s) = some s := by
  induction sources with
  | nil => cases h
  | cons a rest ih =>
    rw [List.pairwise_cons] at apart
    rcases List.mem_cons.1 h with rfl | h
    · exact List.find?_cons_of_pos (isSameObject_self s)
    · rw [List.find?_cons_of_neg (by rw [apart.1 s h]; exact Bool.false_ne_true)]
      exact ih apart.2 h

theorem addSource_of_has (context : String) (there : HasSource sources s) :
    ∃ again, addSource context sources s = .done again ∧
      again.map (·.listed) = sources.map (·.listed) := by
  obtain ⟨first, hfirst, covers⟩ := there
  obtain ⟨again, hagain, hlisted⟩ := mergeSource_of_covers context covers
  refine ⟨_, ?_, map_replaceFirst_of_eq hfirst hlisted⟩
  unfold addSource
  rw [hfirst]
  dsimp only
  rw [hagain]
  rfl

/-- Adding sources that are there changes nothing but absent lists of items. -/
theorem forEach_addSource_of_has (context : String) {added : List ProjectedSource}
    (there : ∀ s ∈ added, HasSource sources s) :
    ∃ again, Merged.forEach (addSource context) sources added = .done again ∧
      again.map (·.listed) = sources.map (·.listed) := by
  induction added generalizing sources with
  | nil => exact ⟨sources, rfl, rfl⟩
  | cons s rest ih =>
    rw [List.forall_mem_cons] at there
    obtain ⟨mid, hmid, hlisted⟩ := addSource_of_has context there.1
    obtain ⟨again, hagain, hlisted'⟩ :=
      ih fun s hs => hasSource_of_listed hlisted.symm (there.2 s hs)
    refine ⟨again, ?_, hlisted'.trans hlisted⟩
    rw [Merged.forEach, hmid]
    exact hagain

end Sources

end Workload

end ServiceBinding
