import ServiceBinding.Proofs.Results
import ServiceBinding.Workload.Container
import ServiceBinding.Workload.Desired
import ServiceBinding.Workload.Volumes

/-!
The theory of merges that go through. What is merged into a pod is told apart by names: a merge
adds at most one volume, mount or variable, under a name that was free, and what has other names
stays as it was. Items of a volume are told apart by their files: however many are added, no two
of them become the same file (`forEach_addItem_eq_ok`).
-/
namespace ServiceBinding
open Object

/-! ### Outcomes -/

namespace Merged
variable {α β : Type}

@[simp] theorem toResult_within (whole : α → β) (m : Merged α) :
    (m.within whole).toResult = m.toResult.map whole := by
  obtain ⟨value, _ | _⟩ := m <;> rfl

@[simp] theorem toResult_andThen (m : Merged α) (next : α → Merged α) :
    (m.andThen next).toResult = m.toResult >>= fun value => (next value).toResult := by
  obtain ⟨value, _ | _⟩ := m <;> rfl

@[simp] theorem forEach_singleton (merge : α → β → Merged α) (value : α) (b : β) :
    forEach merge value [b] = merge value b := by
  show (merge value b).andThen done = merge value b
  obtain ⟨value, _ | _⟩ := merge value b <;> rfl

theorem forEach_cons_eq_ok {merge : α → β → Merged α} {value value' : α} {b : β} {l : List β} :
    (forEach merge value (b :: l)).toResult = .ok value' ↔
      ∃ mid, (merge value b).toResult = .ok mid ∧ (forEach merge mid l).toResult = .ok value' := by
  rw [forEach, toResult_andThen, bind_eq_ok]

/-- Whatever holds of a value, and goes on to hold of it and what has been merged into it so far,
holds of what it has become and all that has been merged into it. -/
theorem forEach_induction {merge : α → β → Merged α} {value value' : α} {l : List β}
    {R : List β → α → Prop} (start : R [] value)
    (step : ∀ before b v v', b ∈ l → R before v → (merge v b).toResult = .ok v' →
      R (before ++ [b]) v')
    (h : (forEach merge value l).toResult = .ok value') : R l value' := by
  have run (before rest : List β) (hl : before ++ rest = l) (v : α) (hv : R before v)
      (h : (forEach merge v rest).toResult = .ok value') : R l value' := by
    induction rest generalizing before v with
    | nil =>
      cases h
      rw [← hl, List.append_nil]
      exact hv
    | cons b rest ih =>
      obtain ⟨mid, hmid, h⟩ := forEach_cons_eq_ok.1 h
      have hb : b ∈ l := hl ▸ List.mem_append_right before List.mem_cons_self
      exact ih (before ++ [b]) ((List.append_cons before b rest).symm.trans hl) mid
        (step before b v mid hb hv hmid) h
  exact run [] l rfl value start h

theorem forEach_append_eq_ok {merge : α → β → Merged α} {value value' : α} {l l' : List β} :
    (forEach merge value (l ++ l')).toResult = .ok value' ↔
      ∃ mid, (forEach merge value l).toResult = .ok mid ∧
        (forEach merge mid l').toResult = .ok value' := by
  induction l generalizing value with
  | nil =>
    refine ⟨fun h => ⟨value, rfl, h⟩, fun ⟨mid, hmid, h⟩ => ?_⟩
    obtain rfl : value = mid := Except.ok.inj hmid
    exact h
  | cons b rest ih =>
    rw [List.cons_append, forEach_cons_eq_ok]
    simp only [ih, forEach_cons_eq_ok]
    constructor
    · rintro ⟨first, hfirst, mid, hmid, h⟩
      exact ⟨mid, ⟨first, hfirst, hmid⟩, h⟩
    · rintro ⟨mid, ⟨first, hfirst, hmid⟩, h⟩
      exact ⟨first, hfirst, mid, hmid, h⟩

end Merged

/-! ### Names in lists -/

section Names
variable {α : Type} {f : α → String}

theorem find?_name_eq_none {l : List α} {name : String} :
    l.find? (f · == name) = none ↔ name ∉ l.map f := by
  rw [List.find?_eq_none, List.mem_map]
  constructor
  · rintro h ⟨a, ha, he⟩
    exact h a ha (beq_iff_eq.2 he)
  · intro h a ha he
    exact h ⟨a, ha, beq_iff_eq.1 he⟩

/-- Where names are different, every element is found by its name. -/
theorem find?_name_of_mem {l : List α} (nodup : (l.map f).Nodup) {a : α} (h : a ∈ l) :
    l.find? (f · == f a) = some a := by
  induction l with
  | nil => cases h
  | cons b rest ih =>
    rw [List.map_cons, List.nodup_cons] at nodup
    rcases List.mem_cons.1 h with rfl | h
    · exact List.find?_cons_of_pos (p := (f · == f a)) (beq_self_eq_true _)
    · have hb : ¬ (f b == f a) = true :=
        fun he => nodup.1 (List.mem_map.2 ⟨a, h, (beq_iff_eq.1 he).symm⟩)
      rw [List.find?_cons_of_neg (p := (f · == f a)) hb]
      exact ih nodup.2 h

/-- Where names are different, the one of a name is all there is of it. -/
theorem filter_name_eq_singleton {l : List α} (nodup : (l.map f).Nodup) {name : String} {a : α}
    (h : l.find? (f · == name) = some a) : l.filter (f · == name) = [a] := by
  induction l with
  | nil => cases h
  | cons b rest ih =>
    rw [List.map_cons, List.nodup_cons] at nodup
    by_cases hb : f b = name
    · have hb' : (f b == name) = true := beq_iff_eq.2 hb
      rw [List.find?_cons_of_pos (p := (f · == name)) hb'] at h
      cases h
      rw [List.filter_cons_of_pos (p := (f · == name)) hb', List.filter_eq_nil_iff.2]
      intro a ha he
      exact nodup.1 (List.mem_map.2 ⟨a, ha, (beq_iff_eq.1 he).trans hb.symm⟩)
    · have hb' : ¬ (f b == name) = true := fun h => hb (beq_iff_eq.1 h)
      rw [List.find?_cons_of_neg (p := (f · == name)) hb'] at h
      rw [List.filter_cons_of_neg (p := (f · == name)) hb']
      exact ih nodup.2 h

/-- Another element under a free name is found there, and nowhere else. -/
theorem find?_append_new {l : List α} {a : α} (free : l.find? (f · == f a) = none)
    (name : String) :
    (l ++ [a]).find? (f · == name) = if name = f a then some a else l.find? (f · == name) := by
  rw [List.find?_append, List.find?_singleton]
  by_cases hn : name = f a
  · subst hn
    rw [free]
    simp
  · have hn' : (f a == name) = false := beq_eq_false_iff_ne.2 fun h => hn h.symm
    rw [if_neg hn, hn', if_neg Bool.false_ne_true, Option.or_none]

theorem nodup_append_new {l : List α} {a : α} (nodup : (l.map f).Nodup)
    (free : l.find? (f · == f a) = none) : ((l ++ [a]).map f).Nodup := by
  rw [List.map_append, List.map_singleton]
  refine List.nodup_append.2 ⟨nodup, List.pairwise_singleton _ _, fun name hname other ho => ?_⟩
  rw [List.mem_singleton.1 ho]
  rintro rfl
  exact find?_name_eq_none.1 free hname

theorem replaceFirst_cons (p : α → Bool) (new a : α) (rest : List α) :
    replaceFirst p new (a :: rest) =
      if p a then new :: rest else a :: replaceFirst p new rest :=
  rfl

/-- Replacing an element by one of its name leaves all names as they are. -/
theorem map_replaceFirst {l : List α} {new : α} {name : String} (same : f new = name) :
    (replaceFirst (f · == name) new l).map f = l.map f := by
  induction l with
  | nil => rfl
  | cons a rest ih =>
    rw [replaceFirst_cons]
    split
    · next h => rw [List.map_cons, List.map_cons, same, beq_iff_eq.1 h]
    · rw [List.map_cons, List.map_cons, ih]

theorem find?_replaceFirst_of_ne {l : List α} {new : α} {name other : String}
    (same : f new = name) (ne : other ≠ name) :
    (replaceFirst (f · == name) new l).find? (f · == other) = l.find? (f · == other) := by
  induction l with
  | nil => rfl
  | cons a rest ih =>
    rw [replaceFirst_cons]
    split
    · next h =>
      have hnew : ¬ (f new == other) = true :=
        fun h => ne ((beq_iff_eq.1 h).symm.trans same)
      have ha : ¬ (f a == other) = true :=
        fun h' => ne ((beq_iff_eq.1 h').symm.trans (beq_iff_eq.1 h))
      rw [List.find?_cons_of_neg (p := (f · == other)) hnew,
        List.find?_cons_of_neg (p := (f · == other)) ha]
    · rw [List.find?_cons, List.find?_cons, ih]

/-- Replacing an element by itself changes nothing. -/
theorem replaceFirst_self {l : List α} {p : α → Bool} {a : α} (h : l.find? p = some a) :
    replaceFirst p a l = l := by
  induction l with
  | nil => rfl
  | cons b rest ih =>
    rw [replaceFirst_cons]
    by_cases hb : p b = true
    · rw [List.find?_cons_of_pos hb] at h
      rw [if_pos hb, Option.some.inj h]
    · rw [List.find?_cons_of_neg hb] at h
      rw [if_neg hb, ih h]

/-- What replaces the first element of a kind is the first of that kind. -/
theorem find?_replaceFirst {l : List α} {p : α → Bool} {old new : α} (there : l.find? p = some old)
    (same : p new = true) : (replaceFirst p new l).find? p = some new := by
  induction l with
  | nil => cases there
  | cons a rest ih =>
    rw [replaceFirst_cons]
    by_cases ha : p a = true
    · rw [if_pos ha, List.find?_cons_of_pos same]
    · rw [List.find?_cons_of_neg ha] at there
      rw [if_neg ha, List.find?_cons_of_neg ha, ih there]

theorem replaceFirst_replaceFirst {l : List α} {p : α → Bool} {new newer : α}
    (same : p new = true) :
    replaceFirst p newer (replaceFirst p new l) = replaceFirst p newer l := by
  induction l with
  | nil => rfl
  | cons a rest ih =>
    by_cases ha : p a = true
    · simp only [replaceFirst_cons, ha, same, if_true]
    · simp only [replaceFirst_cons, ha, ih, Bool.false_eq_true, if_false]

/-- Where one element replaces another, searches that do not tell them apart find what they
found, or the new one instead of the old one. -/
theorem find?_replaceFirst_cases {l : List α} {p q : α → Bool} {old new : α}
    (there : l.find? p = some old) (same : q new = q old) :
    (replaceFirst p new l).find? q = l.find? q ∨
      l.find? q = some old ∧ (replaceFirst p new l).find? q = some new := by
  induction l with
  | nil => cases there
  | cons a rest ih =>
    rw [replaceFirst_cons]
    by_cases ha : p a = true
    · rw [List.find?_cons_of_pos ha] at there
      obtain rfl := Option.some.inj there
      rw [if_pos ha]
      by_cases hq : q a = true
      · rw [List.find?_cons_of_pos hq, List.find?_cons_of_pos (same.trans hq)]
        exact .inr ⟨rfl, rfl⟩
      · rw [List.find?_cons_of_neg hq, List.find?_cons_of_neg (same ▸ hq)]
        exact .inl rfl
    · rw [List.find?_cons_of_neg ha] at there
      rw [if_neg ha]
      by_cases hq : q a = true
      · rw [List.find?_cons_of_pos hq, List.find?_cons_of_pos hq]
        exact .inl rfl
      · rw [List.find?_cons_of_neg hq, List.find?_cons_of_neg hq]
        exact ih there

theorem map_replaceFirst_of_eq {β : Type} {g : α → β} {l : List α} {p : α → Bool} {old new : α}
    (there : l.find? p = some old) (same : g new = g old) :
    (replaceFirst p new l).map g = l.map g := by
  induction l with
  | nil => rfl
  | cons a rest ih =>
    rw [replaceFirst_cons]
    by_cases ha : p a = true
    · rw [List.find?_cons_of_pos ha] at there
      obtain rfl := Option.some.inj there
      rw [if_pos ha, List.map_cons, List.map_cons, same]
    · rw [List.find?_cons_of_neg ha] at there
      rw [if_neg ha, List.map_cons, List.map_cons, ih there]

theorem find?_append_of_some {l added : List α} {p : α → Bool} {a : α}
    (there : l.find? p = some a) : (l ++ added).find? p = some a := by
  rw [List.find?_append, there, Option.some_or]

theorem replaceFirst_append_cons {before after : List α} {p : α → Bool} {old new : α}
    (first : ∀ a ∈ before, ¬ p a) (hit : p old) :
    replaceFirst p new (before ++ old :: after) = before ++ new :: after := by
  induction before with
  | nil => exact if_pos hit
  | cons a rest ih =>
    obtain ⟨ha, hrest⟩ := List.forall_mem_cons.1 first
    rw [List.cons_append, replaceFirst_cons, if_neg ha, ih hrest, List.cons_append]

/-- The list around the first element of a kind. -/
theorem exists_of_find? {l : List α} {p : α → Bool} {a : α} (h : l.find? p = some a) :
    p a = true ∧ ∃ before after, l = before ++ a :: after ∧ ∀ x ∈ before, ¬ p x = true := by
  obtain ⟨hit, before, after, hl, first⟩ := List.find?_eq_some_iff_append.1 h
  exact ⟨hit, before, after, hl, fun x hx => by simpa using first x hx⟩

/-- What replaces the only element of a kind is the only one. -/
theorem filter_replaceFirst {l : List α} {p : α → Bool} {old new : α}
    (only : l.filter p = [old]) (same : p new = true) :
    (replaceFirst p new l).filter p = [new] := by
  induction l with
  | nil => cases only
  | cons a rest ih =>
    rw [replaceFirst_cons]
    by_cases ha : p a = true
    · rw [List.filter_cons_of_pos ha, List.cons.injEq] at only
      rw [if_pos ha, List.filter_cons_of_pos same, only.2]
    · rw [List.filter_cons_of_neg ha] at only
      rw [if_neg ha, List.filter_cons_of_neg ha, ih only]

/-- Replacing the last element, where no other has its name. -/
theorem replaceFirst_append_new {l : List α} {old new : α} (free : l.find? (f · == f old) = none) :
    replaceFirst (f · == f old) new (l ++ [old]) = l ++ [new] :=
  replaceFirst_append_cons (List.find?_eq_none.1 free) (beq_self_eq_true (f old))

end Names

namespace Workload

/-! ### Items -/

/-- An item can be added if it is there under its key, or if neither its key nor its path is used;
then it comes last. -/
theorem addItem_cases {context : String} {items items' : List Item} {item : Item} :
    (addItem context items item).toResult = .ok items' ↔
      items.find? (·.key == item.key) = some item ∧ items' = items ∨
      items.find? (·.key == item.key) = none ∧ items.find? (·.path == item.path) = none ∧
        items' = items ++ [item] := by
  unfold addItem
  cases hkey : items.find? (·.key == item.key) with
  | some known =>
    have he : known.key = item.key :=
      beq_iff_eq.1 (List.find?_some (p := fun known : Item => known.key == item.key) hkey)
    have hsame : known = item ↔ ¬ (known.path ≠ item.path ∨ known.mode ≠ item.mode) := by
      obtain ⟨key, path, mode⟩ := known
      obtain ⟨key', path', mode'⟩ := item
      obtain rfl : key = key' := he
      simp
    dsimp only
    by_cases hk : known = item
    · rw [if_neg (hsame.1 hk), hk]
      simp only [true_and, reduceCtorEq, false_and, or_false]
      exact ⟨fun h => (Except.ok.inj h).symm, fun h => h ▸ rfl⟩
    · rw [if_pos (not_not.1 fun h => hk (hsame.2 h))]
      simp [Merged.toResult, Merged.failed, Except.map, hk]
  | none =>
    dsimp only
    cases hpath : items.find? (·.path == item.path) with
    | some known => simp [Merged.toResult, Merged.failed, Except.map]
    | none =>
      simp only [reduceCtorEq, false_and, true_and, false_or]
      exact ⟨fun h => (Except.ok.inj h).symm, fun h => h ▸ rfl⟩

/-- An item that has been added is there, next to those that were, and none of them becomes the
same file as another. -/
theorem addItem_eq_ok {context : String} {items items' : List Item} {item : Item}
    (h : (addItem context items item).toResult = .ok items') :
    (∀ x, x ∈ items' ↔ x ∈ items ∨ x = item) ∧
      ((items.map (·.path)).Nodup → (items'.map (·.path)).Nodup) := by
  rcases addItem_cases.1 h with ⟨known, rfl⟩ | ⟨-, free, rfl⟩
  · have there := List.mem_of_find?_eq_some known
    exact ⟨fun x => ⟨.inl, fun hx => hx.elim id fun he => he ▸ there⟩, id⟩
  · exact ⟨fun x => by rw [List.mem_append, List.mem_singleton],
      fun nodup => nodup_append_new nodup free⟩

theorem forEach_addItem_eq_ok {context : String} {items items' added : List Item}
    (h : (Merged.forEach (addItem context) items added).toResult = .ok items') :
    (∀ x, x ∈ items' ↔ x ∈ items ∨ x ∈ added) ∧
      ((items.map (·.path)).Nodup → (items'.map (·.path)).Nodup) := by
  refine Merged.forEach_induction (R := fun before mid =>
    (∀ x, x ∈ mid ↔ x ∈ items ∨ x ∈ before) ∧
      ((items.map (·.path)).Nodup → (mid.map (·.path)).Nodup)) ⟨fun x => by simp, id⟩ ?_ h
  rintro before item mid mid' - ⟨hmem, hnodup⟩ hmid
  obtain ⟨hitem, hnodup'⟩ := addItem_eq_ok hmid
  exact ⟨fun x => by rw [hitem, hmem, List.mem_append, List.mem_singleton, or_assoc],
    hnodup' ∘ hnodup⟩

/-! ### Volumes -/

/-- The volume of a name in a pod. -/
def volume? (pod : PodSpec) (name : String) : Option Volume :=
  (pod.volumes.getD []).find? (·.name == name)

theorem addVolume_of_free {pod : PodSpec} {v : Volume} (free : volume? pod v.name = none) :
    addVolume pod v = .done { pod with volumes := some (pod.volumes.getD [] ++ [v]) } := by
  unfold addVolume
  dsimp only
  rw [show (pod.volumes.getD []).find? (·.name == v.name) = none from free]
  rfl

/-! Which kinds of sources a volume has decides its own kind, so it keeps that when one of its
sources is replaced. -/

theorem sourceKind?_congr {v w : Volume} (h : ∀ kind, v.has kind = w.has kind) :
    v.sourceKind? = w.sourceKind? :=
  congrArg SourceKind.all.find? (funext h)

theorem isSome_of_sourceKind? (v : Volume) :
    (v.sourceKind? = some .secret → ∃ x, v.secret = some x) ∧
      (v.sourceKind? = some .configMap → ∃ x, v.configMap = some x) ∧
      (v.sourceKind? = some .projected → ∃ x, v.projected = some x) := by
  have there {kind : SourceKind} (h : v.sourceKind? = some kind) : v.has kind = true :=
    List.find?_some h
  exact ⟨fun h => Option.isSome_iff_exists.1 (there h),
    fun h => Option.isSome_iff_exists.1 (there h), fun h => Option.isSome_iff_exists.1 (there h)⟩

theorem sourceKind?_withSecret {v : Volume} {x : SecretVolume} (there : v.secret = some x)
    (y : SecretVolume) : ({ v with secret := some y } : Volume).sourceKind? = v.sourceKind? := by
  refine sourceKind?_congr fun kind => ?_
  cases kind with
  | secret => rw [Volume.has, Volume.has, there, Option.isSome_some, Option.isSome_some]
  | _ => rfl

theorem sourceKind?_withConfigMap {v : Volume} {x : ConfigMapVolume} (there : v.configMap = some x)
    (y : ConfigMapVolume) :
    ({ v with configMap := some y } : Volume).sourceKind? = v.sourceKind? := by
  refine sourceKind?_congr fun kind => ?_
  cases kind with
  | configMap => rw [Volume.has, Volume.has, there, Option.isSome_some, Option.isSome_some]
  | _ => rfl

theorem sourceKind?_withProjected {v : Volume} {x : ProjectedVolume} (there : v.projected = some x)
    (y : ProjectedVolume) :
    ({ v with projected := some y } : Volume).sourceKind? = v.sourceKind? := by
  refine sourceKind?_congr fun kind => ?_
  cases kind with
  | projected => rw [Volume.has, Volume.has, there, Option.isSome_some, Option.isSome_some]
  | _ => rfl

/-- What a merge of two volumes that goes through is, by their kind. -/
inductive VolumeMerge (known added merged : Volume) : Prop where
  | secret {x y items} (kind : known.sourceKind? = some .secret)
      (kind' : added.sourceKind? = some .secret) (kept : merged.sourceKind? = some .secret)
      (left : known.secret = some x) (right : added.secret = some y)
      (same : x.secretName = y.secretName)
      (merge : (mergeItems ("volume " ++ added.name) x.items y.items).toResult = .ok items)
      (eq : merged = { known with secret := some { x with items := items } })
  | configMap {x y items} (kind : known.sourceKind? = some .configMap)
      (kind' : added.sourceKind? = some .configMap) (kept : merged.sourceKind? = some .configMap)
      (left : known.configMap = some x) (right : added.configMap = some y)
      (same : x.name = y.name)
      (merge : (mergeItems ("volume " ++ added.name) x.items y.items).toResult = .ok items)
      (eq : merged = { known with configMap := some { x with items := items } })
  | projected {x y united} (kind : known.sourceKind? = some .projected)
      (kind' : added.sourceKind? = some .projected) (kept : merged.sourceKind? = some .projected)
      (left : known.projected = some x) (right : added.projected = some y)
      (merge : (mergeProjected ("volume " ++ added.name) x y).toResult = .ok united)
      (eq : merged = { known with projected := some united })
  | other {kind} (kind' : added.sourceKind? = some kind)
      (other : kind ≠ .secret ∧ kind ≠ .configMap ∧ kind ≠ .projected) (same : known = added)
      (eq : merged = known)

theorem mergeVolume_cases {known added merged : Volume}
    (h : (mergeVolume known added).toResult = .ok merged) : VolumeMerge known added merged := by
  obtain ⟨secret, configMap, projected⟩ := isSome_of_sourceKind? known
  obtain ⟨secret', configMap', projected'⟩ := isSome_of_sourceKind? added
  unfold mergeVolume at h
  split at h
  · next knownKind kind hknown hadded =>
    dsimp only at h
    split at h
    · cases h
    next hkinds =>
    rw [not_not] at hkinds
    subst hkinds
    split at h
    · obtain ⟨x, hx⟩ := secret hknown
      obtain ⟨y, hy⟩ := secret' hadded
      rw [hx, hy, Option.getD_some, Option.getD_some] at h
      split at h
      · cases h
      next hsame =>
      rw [Merged.toResult_within, map_eq_ok] at h
      obtain ⟨items, h, rfl⟩ := h
      exact .secret hknown hadded ((sourceKind?_withSecret hx _).trans hknown) hx hy
        (not_not.1 hsame) h rfl
    · obtain ⟨x, hx⟩ := configMap hknown
      obtain ⟨y, hy⟩ := configMap' hadded
      rw [hx, hy, Option.getD_some, Option.getD_some] at h
      split at h
      · cases h
      next hsame =>
      rw [Merged.toResult_within, map_eq_ok] at h
      obtain ⟨items, h, rfl⟩ := h
      exact .configMap hknown hadded ((sourceKind?_withConfigMap hx _).trans hknown) hx hy
        (not_not.1 hsame) h rfl
    · obtain ⟨x, hx⟩ := projected hknown
      obtain ⟨y, hy⟩ := projected' hadded
      rw [hx, hy, Option.getD_some, Option.getD_some, Merged.toResult_within, map_eq_ok] at h
      obtain ⟨united, h, rfl⟩ := h
      exact .projected hknown hadded ((sourceKind?_withProjected hx _).trans hknown) hx hy h rfl
    · next hsecret hconfigMap hprojected =>
      split at h
      · next hsame =>
        cases h
        exact .other hadded ⟨hsecret, hconfigMap, hprojected⟩ hsame rfl
      · cases h
  · cases h

theorem mergeVolume_name {known added merged : Volume}
    (h : (mergeVolume known added).toResult = .ok merged) : merged.name = known.name := by
  cases mergeVolume_cases h with
  | secret _ _ _ _ _ _ _ eq | configMap _ _ _ _ _ _ _ eq | projected _ _ _ _ _ _ eq
  | other _ _ _ eq => rw [eq]

theorem addVolume_of_known {pod : PodSpec} {v known : Volume}
    (there : volume? pod v.name = some known) :
    addVolume pod v = (mergeVolume known v).within fun merged =>
      { pod with
        volumes := some (replaceFirst (·.name == v.name) merged (pod.volumes.getD [])) } := by
  unfold addVolume
  dsimp only
  rw [show (pod.volumes.getD []).find? (·.name == v.name) = some known from there]
  rfl

/-- What a volume that is added is, or becomes with the one of its name; other volumes stay. -/
theorem addVolume_eq_ok {pod pod' : PodSpec} {v : Volume}
    (h : (addVolume pod v).toResult = .ok pod') : ∃ united,
      (∀ name, volume? pod' name = if name = v.name then some united else volume? pod name) ∧
      (volume? pod v.name = none ∧ united = v ∨
        ∃ known, volume? pod v.name = some known ∧
          (mergeVolume known v).toResult = .ok united) := by
  cases there : volume? pod v.name with
  | none =>
    rw [addVolume_of_free there] at h
    cases h
    exact ⟨v, find?_append_new there, .inl ⟨rfl, rfl⟩⟩
  | some known =>
    rw [addVolume_of_known there, Merged.toResult_within, map_eq_ok] at h
    obtain ⟨united, hmerge, rfl⟩ := h
    have hknown : (known.name == v.name) = true :=
      List.find?_some (p := fun known : Volume => known.name == v.name) there
    have hname : united.name = v.name := (mergeVolume_name hmerge).trans (beq_iff_eq.1 hknown)
    refine ⟨united, fun name => ?_, .inr ⟨known, rfl, hmerge⟩⟩
    by_cases hn : name = v.name
    · subst hn
      rw [if_pos rfl]
      exact find?_replaceFirst there (beq_iff_eq.2 hname)
    · rw [if_neg hn]
      exact find?_replaceFirst_of_ne hname hn

/-- A volume united with the last one of a pod, where no other has its name. -/
theorem addVolume_of_last (pod : PodSpec) {volumes : List Volume} (known v : Volume)
    (free : volumes.find? (·.name == known.name) = none) (same : v.name = known.name) :
    addVolume { pod with volumes := some (volumes ++ [known]) } v =
      (mergeVolume known v).within fun merged =>
        { pod with volumes := some (volumes ++ [merged]) } := by
  have hknown := find?_append_new free known.name
  rw [if_pos rfl] at hknown
  unfold addVolume
  dsimp only [Option.getD_some]
  rw [same, hknown]
  unfold Merged.within
  dsimp only
  rw [replaceFirst_append_new free]

theorem containers_of_addVolume {pod pod' : PodSpec} {v : Volume}
    (h : (addVolume pod v).toResult = .ok pod') : pod'.containers = pod.containers := by
  unfold addVolume at h
  rw [Merged.toResult_within, map_eq_ok] at h
  obtain ⟨_, _, rfl⟩ := h
  rfl

theorem containers_of_forEach_addVolume {β : Type} {volume : β → Volume} {l : List β}
    {pod pod' : PodSpec}
    (h : (Merged.forEach (fun pod b => addVolume pod (volume b)) pod l).toResult = .ok pod') :
    pod'.containers = pod.containers := by
  refine Merged.forEach_induction (R := fun _ p => p.containers = pod.containers) rfl ?_ h
  intro _ b p p' _ hp hmid
  exact (containers_of_addVolume hmid).trans hp

/-! ### The container of the instance -/

/-- The mount of a name in a container. -/
def mount? (c : Container) (name : String) : Option Mount :=
  (c.volumeMounts.getD []).find? (·.name == name)

/-- The variable of a name in a container. -/
def envVar? (c : Container) (name : String) : Option EnvVar :=
  (c.env.getD []).find? (·.name == name)

theorem addMount_of_free {c : Container} {m : Mount} (free : mount? c m.name = none) :
    addMount c m = .done { c with volumeMounts := some (c.volumeMounts.getD [] ++ [m]) } := by
  unfold addMount
  dsimp only
  rw [show (c.volumeMounts.getD []).find? (·.name == m.name) = none from free]

/-- Merging into a container leaves the volumes of the pod alone. -/
theorem volumes_of_inServer {pod pod' : PodSpec} {merge : Container → Merged Container}
    (h : (inServer pod merge).toResult = .ok pod') : pod'.volumes = pod.volumes := by
  unfold inServer at h
  split at h
  · rw [Merged.toResult_within, map_eq_ok] at h
    obtain ⟨_, _, rfl⟩ := h
    rfl
  · cases h

theorem inServer_of_alone {pod : PodSpec} {c : Container} (alone : pod.containers = [c])
    (server : c.name = serverContainer) (merge : Container → Merged Container) :
    inServer pod merge = (merge c).within fun c' => { pod with containers := [c'] } := by
  unfold inServer
  rw [alone, List.find?_singleton, server, beq_self_eq_true, if_pos rfl]
  simp only [replaceFirst_cons, server, beq_self_eq_true, if_true]

/-! ### Variables -/

theorem mergeVariable_eq_ok {context : String} {delimiter : Option String}
    {known added merged : EnvVar}
    (h : (mergeVariable context delimiter known added).toResult = .ok merged) :
    merged.name = known.name ∧ (delimiter = none → known = added ∧ merged = added) := by
  unfold mergeVariable at h
  dsimp only at h
  split at h
  · next he =>
    cases h
    exact ⟨rfl, fun _ => ⟨he, he⟩⟩
  split at h
  · cases h
  cases delimiter with
  | none => cases h
  | some delimiter =>
    cases h
    exact ⟨rfl, fun h => nomatch h⟩

/-- A merge of one variable touches no name: its own comes last unless it is there already. -/
theorem names_mergeEnv {c c' : Container} {var : EnvVar} {delimiter : Option String}
    (h : (mergeEnv c var delimiter).toResult = .ok c') : c' = { c with env := c'.env } ∧
      ((∃ known, envVar? c var.name = some known) ∧
          (c'.env.getD []).map (·.name) = (c.env.getD []).map (·.name) ∨
        envVar? c var.name = none ∧
          (c'.env.getD []).map (·.name) = (c.env.getD []).map (·.name) ++ [var.name]) := by
  unfold mergeEnv at h
  rw [Merged.toResult_within, map_eq_ok] at h
  obtain ⟨env, h, rfl⟩ := h
  refine ⟨rfl, ?_⟩
  cases hv : (c.env.getD []).find? (·.name == var.name) with
  | none =>
    rw [hv] at h
    cases h
    exact .inr ⟨hv, List.map_append⟩
  | some known =>
    rw [hv] at h
    dsimp only at h
    rw [Merged.toResult_within, map_eq_ok] at h
    obtain ⟨merged, hm, rfl⟩ := h
    have hknown : (known.name == var.name) = true :=
      List.find?_some (p := fun known : EnvVar => known.name == var.name) hv
    exact .inl ⟨⟨known, hv⟩,
      map_replaceFirst ((mergeVariable_eq_ok hm).1.trans (beq_iff_eq.1 hknown))⟩

/-- What adding variables to a container keeps: everything else, and all variables but the list of
templates, of which no two have the same name. -/
structure EnvKept (c c' : Container) : Prop where
  rest : c' = { c with env := c'.env }
  nodup : ((c.env.getD []).map (·.name)).Nodup → ((c'.env.getD []).map (·.name)).Nodup
  kept : ∀ name var, name ≠ templatesVariable → envVar? c name = some var →
    envVar? c' name = some var

theorem EnvKept.refl (c : Container) : EnvKept c c := ⟨rfl, id, fun _ _ _ h => h⟩

theorem EnvKept.trans {a b c : Container} (h : EnvKept a b) (h' : EnvKept b c) : EnvKept a c where
  rest := by
    rw [h'.rest, h.rest]
  nodup := h'.nodup ∘ h.nodup
  kept name var hn hv := h'.kept name var hn (h.kept name var hn hv)

/-- A merge of one variable keeps the others, and without a delimiter it is there afterwards just
as it was added. -/
theorem mergeEnv_eq_ok {c c' : Container} {var : EnvVar} {delimiter : Option String}
    (h : (mergeEnv c var delimiter).toResult = .ok c')
    (listed : delimiter = none ∨ var.name = templatesVariable) :
    EnvKept c c' ∧ (delimiter = none → envVar? c' var.name = some var) := by
  unfold mergeEnv at h
  rw [Merged.toResult_within, map_eq_ok] at h
  obtain ⟨env, h, rfl⟩ := h
  cases hv : (c.env.getD []).find? (·.name == var.name) with
  | none =>
    rw [hv] at h
    cases h
    have hfind := find?_append_new hv
    refine ⟨⟨rfl, fun nodup => nodup_append_new nodup hv, fun name known _ hk => ?_⟩, fun _ => ?_⟩
    · refine (hfind name).trans ?_
      split
      · next he =>
        subst he
        cases hv.symm.trans hk
      · exact hk
    · refine (hfind var.name).trans ?_
      rw [if_pos rfl]
  | some known =>
    rw [hv] at h
    dsimp only at h
    rw [Merged.toResult_within, map_eq_ok] at h
    obtain ⟨merged, hm, rfl⟩ := h
    have hname : (known.name == var.name) = true :=
      List.find?_some (p := fun known : EnvVar => known.name == var.name) hv
    obtain ⟨hsame, hnone⟩ := mergeVariable_eq_ok hm
    have hmerged : merged.name = var.name := hsame.trans (beq_iff_eq.1 hname)
    -- Without a delimiter the variable was there already, so that nothing is replaced.
    have hself : delimiter = none →
        replaceFirst (·.name == var.name) merged (c.env.getD []) = c.env.getD [] ∧ known = var := by
      intro hd
      obtain ⟨rfl, rfl⟩ := hnone hd
      exact ⟨replaceFirst_self hv, rfl⟩
    refine ⟨⟨rfl, fun nodup => ?_, fun name other hn hk => ?_⟩, fun hd => ?_⟩
    · show ((replaceFirst (·.name == var.name) merged (c.env.getD [])).map (·.name)).Nodup
      rw [map_replaceFirst hmerged]
      exact nodup
    · show (replaceFirst (·.name == var.name) merged (c.env.getD [])).find? (·.name == name) = _
      by_cases he : name = var.name
      · rw [(hself (listed.resolve_right fun h => hn (he.trans h))).1]
        exact hk
      · rw [find?_replaceFirst_of_ne hmerged he]
        exact hk
    · show (replaceFirst (·.name == var.name) merged (c.env.getD [])).find? (·.name == var.name) = _
      rw [(hself hd).1, hv, (hself hd).2]

theorem envKept_of_addTemplates {c c' : Container} {templates : List String}
    (h : (addTemplates c templates).toResult = .ok c') : EnvKept c c' := by
  refine Merged.forEach_induction (R := fun _ => EnvKept c) (.refl c) ?_ h
  intro _ template mid mid' _ kept hmid
  exact kept.trans (mergeEnv_eq_ok hmid (.inr rfl)).1

/-- Variables that have been added are there. -/
theorem forEach_mergeEnv_eq_ok {c c' : Container} {vars : List EnvVar}
    (h : (Merged.forEach (mergeEnv · · none) c vars).toResult = .ok c') :
    EnvKept c c' ∧ ∀ var ∈ vars, var.name ≠ templatesVariable →
      envVar? c' var.name = some var := by
  refine Merged.forEach_induction (R := fun before mid => EnvKept c mid ∧ ∀ var ∈ before,
    var.name ≠ templatesVariable → envVar? mid var.name = some var) ⟨.refl c, nofun⟩ ?_ h
  rintro before var mid mid' - ⟨hkept, hthere⟩ hmid
  obtain ⟨hkept', hvar⟩ := mergeEnv_eq_ok hmid (.inl rfl)
  exact ⟨hkept.trans hkept', List.forall_mem_append.2
    ⟨fun v hv hn => hkept'.kept _ _ hn (hthere v hv hn),
      List.forall_mem_singleton.2 fun _ => hvar rfl⟩⟩

end Workload

end ServiceBinding
