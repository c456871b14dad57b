import ServiceBinding.Proofs.Workload.Listing
import ServiceBinding.Proofs.Workload.Portions

/-!
The names that a pod shows: those of its variables, and the items of its volumes, each with a key
and a path. A merge makes none of them up. It leaves those that were there and adds those that it
was given, whatever the pod looks like.
-/
namespace ServiceBinding
open Object

/-- The names of the variables of a container. -/
def Object.Container.variableNames (c : Container) : List String := (c.env.getD []).map (·.name)

/-- The names of the variables of a pod's containers. -/
def Object.PodSpec.variableNames (pod : PodSpec) : List String :=
  pod.containers.flatMap (·.variableNames)

/-- The items of a volume. -/
def Object.Volume.items (v : Volume) : List Item := v.itemLists.flatten

/-- The items of a pod's volumes. -/
def Object.PodSpec.items (pod : PodSpec) : List Item := (pod.volumes.getD []).flatMap (·.items)

namespace Workload

/-! ### Variables -/

section Variables
variable {c c' : Container} {name : String}

theorem names_addMount {m : Mount} (h : (addMount c m).toResult = .ok c') :
    c'.variableNames = c.variableNames := by
  unfold addMount at h
  dsimp only at h
  split at h
  · cases h
    rfl
  · split at h
    · cases h
      rfl
    · cases h

theorem mem_names_mergeEnv {var : EnvVar} {delimiter : Option String}
    (h : (mergeEnv c var delimiter).toResult = .ok c') :
    name ∈ c'.variableNames ↔ name ∈ c.variableNames ∨ name = var.name := by
  unfold Object.Container.variableNames
  obtain ⟨-, ⟨⟨known, there⟩, hnames⟩ | ⟨-, hnames⟩⟩ := names_mergeEnv h
  · rw [hnames]
    refine ⟨.inl, fun hname => hname.elim id ?_⟩
    rintro rfl
    by_contra hn
    cases there.symm.trans (find?_name_eq_none.2 hn)
  · rw [hnames, List.mem_append, List.mem_singleton]

theorem mem_names_forEach_mergeEnv {β : Type} (make : β → EnvVar) {added : List β}
    {delimiter : Option String}
    (h : (Merged.forEach (fun c b => mergeEnv c (make b) delimiter) c added).toResult = .ok c') :
    name ∈ c'.variableNames ↔ name ∈ c.variableNames ∨ name ∈ added.map fun b => (make b).name := by
  refine Merged.forEach_induction (R := fun before mid => name ∈ mid.variableNames ↔
    name ∈ c.variableNames ∨ name ∈ before.map fun b => (make b).name) (by simp) ?_ h
  intro before b mid mid' _ hmid hstep
  rw [mem_names_mergeEnv hstep, hmid, List.map_append, List.mem_append, List.map_singleton,
    List.mem_singleton, or_assoc]

/-- Merging into the server's container replaces it in its place. -/
theorem exists_of_inServer {pod pod' : PodSpec} {merge : Container → Merged Container}
    (h : (inServer pod merge).toResult = .ok pod') : ∃ before c after c',
      pod.containers = before ++ c :: after ∧ (merge c).toResult = .ok c' ∧
        pod' = { pod with containers := before ++ c' :: after } := by
  unfold inServer at h
  cases hfind : pod.containers.find? (·.name == serverContainer) with
  | none =>
    rw [hfind] at h
    cases h
  | some c =>
    rw [hfind] at h
    dsimp only at h
    rw [Merged.toResult_within, map_eq_ok] at h
    obtain ⟨c', hc', rfl⟩ := h
    obtain ⟨hit, before, after, hcontainers, first⟩ := exists_of_find? hfind
    refine ⟨before, c, after, c', hcontainers, hc', ?_⟩
    rw [hcontainers, replaceFirst_append_cons first hit]

end Variables

/-! ### Items -/

section Items
variable {pod pod' : PodSpec} {known v merged : Volume} {item : Item}

theorem mem_items : item ∈ v.items ↔ (∃ x, v.secret = some x ∧ item ∈ x.items.getD []) ∨
    (∃ x, v.configMap = some x ∧ item ∈ x.items.getD []) ∨
      ∃ s ∈ v.sources?.getD [], ∃ items ∈ s.itemLists, item ∈ items := by
  unfold Object.Volume.items Object.Volume.itemLists
  simp only [List.mem_flatten, List.mem_append, List.mem_map, Option.mem_toList, List.mem_flatMap]
  grind

/-- The items of sources are those of their portions, over whatever objects. -/
theorem mem_itemLists_iff {sources : List ProjectedSource} :
    (∃ s ∈ sources, ∃ items ∈ s.itemLists, item ∈ items) ↔
      ∃ o, item ∈ (listsOver o (sources.flatMap (·.portions))).flatten := by
  have hlists : ∀ s : ProjectedSource, s.itemLists = s.portions.map (·.items) := by
    intro s
    unfold Object.ProjectedSource.itemLists Object.ProjectedSource.portions
    cases s.secret <;> cases s.configMap <;> rfl
  simp only [List.mem_flatten, mem_listsOver, List.mem_flatMap, hlists, List.mem_map]
  constructor
  · rintro ⟨s, hs, _, ⟨p, hp, rfl⟩, hi⟩
    exact ⟨p.origin, p.items, ⟨s, hs, hp⟩, hi⟩
  · rintro ⟨o, items, ⟨s, hs, hp⟩, hi⟩
    exact ⟨s, hs, items, ⟨_, hp, rfl⟩, hi⟩

/-- A volume that has been merged into another one shows no item that neither of them has. -/
theorem mem_items_mergeVolume (single : v.SingleSourced)
    (h : (mergeVolume known v).toResult = .ok merged) (hi : item ∈ merged.items) :
    item ∈ known.items ∨ item ∈ v.items := by
  rw [mem_items] at hi ⊢
  rw [mem_items]
  cases mergeVolume_cases h with
  | @secret _ _ items _ _ _ left right _ merge eq =>
    obtain ⟨hmem, -⟩ := forEach_addItem_eq_ok (mergeItems_joined merge)
    subst eq
    rcases hi with ⟨_, ⟨⟩, hi⟩ | hi
    · exact ((hmem item).1 hi).imp (fun hx => .inl ⟨_, left, hx⟩) fun hy => .inl ⟨_, right, hy⟩
    · exact .inl (.inr hi)
  | configMap _ _ _ left right _ merge eq =>
    obtain ⟨hmem, -⟩ := forEach_addItem_eq_ok (mergeItems_joined merge)
    subst eq
    rcases hi with hi | ⟨_, ⟨⟩, hi⟩ | hi
    · exact .inl (.inl hi)
    · exact ((hmem item).1 hi).imp (fun hx => .inr (.inl ⟨_, left, hx⟩))
        fun hy => .inr (.inl ⟨_, right, hy⟩)
    · exact .inl (.inr (.inr hi))
  | projected _ _ _ left right merge eq =>
    unfold mergeProjected at merge
    split at merge
    · cases merge
    rw [Merged.toResult_within, map_eq_ok] at merge
    obtain ⟨sources, hsources, rfl⟩ := merge
    subst eq
    rw [Object.Volume.SingleSourced, sources?_eq right] at single
    have joined := joined_forEach_addSource single hsources
    rcases hi with hi | hi | hi
    · exact .inl (.inl hi)
    · exact .inl (.inr (.inl hi))
    · obtain ⟨o, ho⟩ := mem_itemLists_iff.1 hi
      rw [sources?_eq left, sources?_eq right]
      exact ((joined.mem o item).1 ho).imp (fun hx => .inr (.inr (mem_itemLists_iff.2 ⟨o, hx⟩)))
        fun hy => .inr (.inr (mem_itemLists_iff.2 ⟨o, hy⟩))
  | other _ _ _ eq => exact .inl (eq ▸ hi)

/-- A pod with one more volume shows no item that neither of them has. -/
theorem mem_items_addVolume (single : v.SingleSourced) (h : (addVolume pod v).toResult = .ok pod')
    (hi : item ∈ pod'.items) : item ∈ pod.items ∨ item ∈ v.items := by
  unfold Object.PodSpec.items at hi ⊢
  cases there : volume? pod v.name with
  | none =>
    rw [addVolume_of_free there] at h
    obtain rfl : { pod with volumes := some (pod.volumes.getD [] ++ [v]) } = pod' :=
      Except.ok.inj h
    rw [Option.getD_some, List.flatMap_append, List.mem_append, List.flatMap_singleton] at hi
    exact hi
  | some known =>
    rw [addVolume_of_known there, Merged.toResult_within, map_eq_ok] at h
    obtain ⟨united, hmerge, rfl⟩ := h
    obtain ⟨hit, before, after, hvolumes, first⟩ := exists_of_find? there
    rw [Option.getD_some, hvolumes, replaceFirst_append_cons first hit, List.flatMap_append,
      List.flatMap_cons, List.mem_append, List.mem_append] at hi
    rw [hvolumes, List.flatMap_append, List.flatMap_cons, List.mem_append, List.mem_append]
    rcases hi with hi | hi | hi
    · exact .inl (.inl hi)
    · exact (mem_items_mergeVolume single hmerge hi).imp (fun hi => .inr (.inl hi)) id
    · exact .inl (.inr (.inr hi))

end Items

end Workload
end ServiceBinding
