import ServiceBinding.Proofs.Binding.Applying
import ServiceBinding.Proofs.Object.Order
import ServiceBinding.Proofs.Workload.Registering

/-!
Where a binding's contributions go. Whatever a pod looks like, there is one list of items in it that
takes all files of a binding (`exists_filesSlot`), unless it takes none of them, and one list of
variables. Merging contributions into the pod is registering them in these lists (`Slot`), and what
comes of it differs only in the order of the lists.
-/
namespace ServiceBinding
open Object

/-- Whether merging into a value is merging into a part of it, from a start on that the value may
not have written out. -/
structure Slot {σ α β : Type} (merge : σ → β → Merged σ) (add : α → β → Merged α) (value : σ)
    (start : α) (put : α → σ) : Prop where
  first : ∀ b, merge value b = (add start b).within put
  next : ∀ part b, merge (put part) b = (add part b).within put

section Slots
variable {σ α β : Type} {merge : σ → β → Merged σ} {add : α → β → Merged α} {value : σ}
  {start : α} {put : α → σ}

theorem Merged.andThen_within (m : Merged α) {next : σ → Merged σ} {next' : α → Merged α}
    (same : ∀ part, next (put part) = (next' part).within put) :
    (m.within put).andThen next = (m.andThen next').within put := by
  obtain ⟨part, _ | _⟩ := m
  · rfl
  · exact same part

theorem Slot.forEach_next (h : Slot merge add value start put) (part : α) (l : List β) :
    Merged.forEach merge (put part) l = (Merged.forEach add part l).within put := by
  induction l generalizing part with
  | nil => rfl
  | cons b rest ih =>
    rw [Merged.forEach, Merged.forEach, h.next]
    exact Merged.andThen_within _ ih

/-- At least one contribution turns the value into one with its part written out. -/
theorem Slot.forEach (h : Slot merge add value start put) {l : List β} (nonempty : l ≠ []) :
    Merged.forEach merge value l = (Merged.forEach add start l).within put := by
  cases l with
  | nil => exact absurd rfl nonempty
  | cons b rest =>
    rw [Merged.forEach, Merged.forEach, h.first]
    exact Merged.andThen_within _ fun part => h.forEach_next part rest

/-- A slot in the part that another slot is of. -/
theorem Slot.comp {γ : Type} {add' : γ → β → Merged γ} {start' : γ} {put' : γ → α}
    (h : Slot merge add value start put) (h' : Slot add add' start start' put') :
    Slot merge add' value start' fun part => put (put' part) where
  first b := by
    rw [h.first, h'.first]
    rfl
  next part b := by
    rw [h.next, h'.next]
    rfl

end Slots

namespace Binding
open Workload

/-! ### Variables -/

/-- The variables of a container take those of a binding. -/
theorem envSlot (c : Container) : Slot (mergeEnv · · none) (addVariable (containerContext c)) c
    (c.env.getD []) fun env => { c with env := some env } where
  first _ := rfl
  next _ _ := rfl

/-! ### Sources -/

/-- Whether a source of a projected volume takes its files from a secret of some name. -/
def isOver (name : String) (s : ProjectedSource) : Bool := s.secret.any (·.name == name)

theorem isSameObject_secretSourceOf (name : String) (items : List Item) :
    (isSameObject · (secretSourceOf name items)) = isOver name := by
  funext s
  unfold isSameObject isOver secretSourceOf
  cases hs : s.secret with
  | some o => rfl
  | none =>
    have hne : s ≠ { secret := some { name := name, items := some items } } := by
      rintro rfl
      cases hs
    cases s.configMap <;> simpa using hne

/-- A source over a secret, with some items of it. -/
def withItems (s : ProjectedSource) (o : ObjectItems) (items : List Item) : ProjectedSource :=
  { s with secret := some { o with items := some items } }

theorem permuted_withItems (s : ProjectedSource) (o : ObjectItems) {items items' : List Item}
    (perm : items.Perm items') : (withItems s o items).Permuted (withItems s o items') :=
  ⟨rfl, .some ⟨rfl, .some perm⟩⟩

theorem mergeSource_secretSourceOf {context name : String} {s : ProjectedSource} {o : ObjectItems}
    (taken : s.secret = some o) (item : Item) :
    mergeSource context s (secretSourceOf name [item]) =
      (addItem context (o.items.getD []) item).within (withItems s o) := by
  unfold mergeSource mergeItems secretSourceOf
  rw [taken]
  dsimp only [Option.getD_some]
  rw [Merged.forEach_singleton]
  rfl

/-- An item goes into the first source over its secret. -/
theorem addSource_of_first {context name : String} {before after : List ProjectedSource}
    {s : ProjectedSource} {o : ObjectItems} (taken : s.secret = some o) (named : o.name = name)
    (first : ∀ x ∈ before, ¬ isOver name x = true) (item : Item) :
    addSource context (before ++ s :: after) (secretSourceOf name [item]) =
      (addItem context (o.items.getD []) item).within
        fun items => before ++ withItems s o items :: after := by
  have hit : isOver name s = true := by
    rw [isOver, taken]
    exact beq_iff_eq.2 named
  have hfind : (before ++ s :: after).find? (isOver name) = some s := by
    rw [List.find?_append, List.find?_eq_none.2 first, Option.none_or, List.find?_cons_of_pos hit]
  unfold addSource
  rw [isSameObject_secretSourceOf, hfind]
  dsimp only
  rw [mergeSource_secretSourceOf taken]
  unfold Merged.within
  dsimp only
  rw [replaceFirst_append_cons first hit]

/-- Some sources take the files of a secret in one place: in the first source over the secret, or
in a new one at the end. -/
theorem exists_sourceSlot (context name : String) (sources : List ProjectedSource) :
    ∃ start put, Slot (fun sources item => addSource context sources (secretSourceOf name [item]))
        (addItem context) sources start put ∧
      ∀ {items items'}, items.Perm items' →
        List.Forall₂ ProjectedSource.Permuted (put items) (put items') := by
  have hput (before after : List ProjectedSource) (s : ProjectedSource) (o : ObjectItems)
      {items items' : List Item} (perm : items.Perm items') :
      List.Forall₂ ProjectedSource.Permuted (before ++ withItems s o items :: after)
        (before ++ withItems s o items' :: after) :=
    List.rel_append (forall₂_refl .refl before)
      (.cons (permuted_withItems s o perm) (forall₂_refl .refl after))
  cases hfind : sources.find? (isOver name) with
  | none =>
    refine ⟨[], fun items => sources ++ withItems {} { name := name } items :: [],
      ⟨fun item => ?_, fun items item => ?_⟩, hput _ _ _ _⟩
    · unfold addSource
      rw [isSameObject_secretSourceOf, hfind]
      rfl
    · exact addSource_of_first (s := withItems {} { name := name } items)
        (o := { name := name, items := some items }) rfl rfl (List.find?_eq_none.1 hfind) item
  | some s =>
    obtain ⟨hit, before, after, rfl, first⟩ := exists_of_find? hfind
    obtain ⟨o, taken, named⟩ : ∃ o, s.secret = some o ∧ o.name = name := by
      unfold isOver at hit
      cases hs : s.secret with
      | none => simp [hs] at hit
      | some o => exact ⟨o, rfl, by simpa [hs] using hit⟩
    exact ⟨o.items.getD [], fun items => before ++ withItems s o items :: after,
      ⟨addSource_of_first taken named first,
        fun items => addSource_of_first (s := withItems s o items) rfl named first⟩, hput _ _ _ _⟩

/-! ### Volumes -/

/-- A projected volume with some sources. -/
def withSources (v : Volume) (u : ProjectedVolume) (sources : List ProjectedSource) : Volume :=
  { v with projected := some { u with sources := some sources } }

theorem mergeVolume_of_projected {v : Volume} {u : ProjectedVolume}
    (kind : v.sourceKind? = some .projected) (projected : v.projected = some u)
    (secondary binding : String) (item : Item) :
    mergeVolume v (filesVolume secondary binding [item]) =
      (addSource ("volume " ++ volumeName binding) (u.sources.getD [])
        (secretSourceOf secondary [item])).within (withSources v u) := by
  have hkind : (filesVolume secondary binding [item]).sourceKind? = some .projected := rfl
  unfold mergeVolume
  rw [kind, hkind, projected]
  simp only [ne_eq, not_true, if_false, Option.getD_some]
  unfold mergeProjected filesVolume
  simp only [Option.getD_some, Option.isSome_none, Bool.false_eq_true, and_false, if_false,
    Merged.forEach_singleton]
  rfl

/-- A volume with another kind of source takes no files of a binding. -/
theorem not_mergeVolume_of_kind {v : Volume} (kind : v.sourceKind? ≠ some .projected)
    (secondary binding : String) (item : Item) (v' : Volume) :
    (mergeVolume v (filesVolume secondary binding [item])).toResult ≠ .ok v' := by
  intro h
  have hkind : (filesVolume secondary binding [item]).sourceKind? = some .projected := rfl
  cases mergeVolume_cases h with
  | secret _ kind' | configMap _ kind' => cases hkind.symm.trans kind'
  | projected kind' => exact kind kind'
  | other _ _ same => exact kind (same ▸ hkind)

/-- The items go into the first volume of a binding's name, if it is a projected one. -/
theorem addVolume_of_first (pod : PodSpec) {before after : List Volume} {v : Volume}
    {u : ProjectedVolume} {binding : String} (kind : v.sourceKind? = some .projected)
    (projected : v.projected = some u) (named : v.name = volumeName binding)
    (first : ∀ x ∈ before, ¬ (x.name == volumeName binding) = true) (secondary : String)
    (item : Item) (volumes : pod.volumes.getD [] = before ++ v :: after) :
    addVolume pod (filesVolume secondary binding [item]) =
      (addSource ("volume " ++ volumeName binding) (u.sources.getD [])
        (secretSourceOf secondary [item])).within fun sources =>
          { pod with volumes := some (before ++ withSources v u sources :: after) } := by
  have hit : (v.name == volumeName binding) = true := beq_iff_eq.2 named
  have hfind : volume? pod (volumeName binding) = some v := by
    rw [volume?, volumes, List.find?_append, List.find?_eq_none.2 first, Option.none_or,
      List.find?_cons_of_pos (p := fun v : Volume => v.name == volumeName binding) hit]
  rw [addVolume_of_known (v := filesVolume secondary binding [item]) hfind,
    mergeVolume_of_projected kind projected]
  unfold Merged.within
  dsimp only
  rw [volumes, show (filesVolume secondary binding [item]).name = volumeName binding from rfl,
    replaceFirst_append_cons first hit]

/-- Where the files of a binding go in a pod: nowhere, or into the sources of one volume. -/
theorem exists_volumeSlot (pod : PodSpec) (secondary binding : String) :
    (∀ item pod', (addVolume pod (filesVolume secondary binding [item])).toResult ≠ .ok pod') ∨
      ∃ start put, Slot (fun pod item => addVolume pod (filesVolume secondary binding [item]))
          (fun sources item => addSource ("volume " ++ volumeName binding) sources
            (secretSourceOf secondary [item])) pod start put ∧
        ∀ {sources sources'}, List.Forall₂ ProjectedSource.Permuted sources sources' →
          PodSpec.Permuted (put sources) (put sources') := by
  have hput (before after : List Volume) (v : Volume) (u : ProjectedVolume)
      {sources sources' : List ProjectedSource}
      (perm : List.Forall₂ ProjectedSource.Permuted sources sources') :
      PodSpec.Permuted { pod with volumes := some (before ++ withSources v u sources :: after) }
        { pod with volumes := some (before ++ withSources v u sources' :: after) } :=
    ⟨rfl, forall₂_refl .refl _, .some (List.rel_append (forall₂_refl .refl before)
      (.cons ⟨rfl, .some ⟨rfl, .some perm⟩⟩ (forall₂_refl .refl after)))⟩
  have hnext {before after : List Volume} {v : Volume} {u : ProjectedVolume}
      (kind : (withSources v u []).sourceKind? = some .projected)
      (named : v.name = volumeName binding)
      (first : ∀ x ∈ before, ¬ (x.name == volumeName binding) = true)
      (sources : List ProjectedSource) (item : Item) :=
    addVolume_of_first { pod with volumes := some (before ++ withSources v u sources :: after) }
      (v := withSources v u sources) (u := { u with sources := some sources }) kind rfl named first
      secondary item rfl
  cases hfind : volume? pod (volumeName binding) with
  | none =>
    have first := List.find?_eq_none.1 hfind
    refine .inr ⟨[], fun sources => { pod with volumes := some (pod.volumes.getD [] ++
      withSources { name := volumeName binding } {} sources :: []) },
      ⟨fun item => ?_, hnext rfl rfl first⟩, hput _ _ _ _⟩
    rw [addVolume_of_free (v := filesVolume secondary binding [item]) hfind]
    rfl
  | some v =>
    by_cases kind : v.sourceKind? = some .projected
    · obtain ⟨hit, before, after, volumes, first⟩ := exists_of_find? hfind
      obtain ⟨u, projected⟩ := (isSome_of_sourceKind? v).2.2 kind
      have kind' : (withSources v u []).sourceKind? = some .projected :=
        (sourceKind?_withProjected projected _).trans kind
      exact .inr ⟨u.sources.getD [], fun sources =>
        { pod with volumes := some (before ++ withSources v u sources :: after) },
        ⟨fun item => addVolume_of_first pod kind projected (beq_iff_eq.1 hit) first secondary item
          volumes, hnext kind' (beq_iff_eq.1 hit) first⟩, hput _ _ _ _⟩
    · refine .inl fun item pod' h => ?_
      rw [addVolume_of_known (v := filesVolume secondary binding [item]) hfind,
        Merged.toResult_within, map_eq_ok] at h
      obtain ⟨v', hv', -⟩ := h
      exact not_mergeVolume_of_kind kind secondary binding item v' hv'

end Binding

end ServiceBinding
