import ServiceBinding.Proofs.Binding.Shares
import ServiceBinding.Proofs.Binding.Slots

/-!
Plans in another order. If a plan can be applied to a pod, so can one with the same files and
variables in another order, and the pods that come of it are the same up to order
(`apply_permuted`): files and variables are registered in one list each.
-/
namespace ServiceBinding.Binding
open Object Workload

variable {secondary binding : String} {pod pod' : PodSpec}

/-- Files in another order can be added to a pod as well. -/
theorem files_permuted {items items' : List Item} (perm : items.Perm items')
    (h : (Merged.forEach (fun pod item => addVolume pod (filesVolume secondary binding [item])) pod
      items).toResult = .ok pod') :
    ∃ pod'', (Merged.forEach (fun pod item => addVolume pod (filesVolume secondary binding [item]))
      pod items').toResult = .ok pod'' ∧ pod'.Permuted pod'' := by
  rcases eq_or_ne items [] with rfl | hne
  · obtain rfl := perm.nil_eq
    exact ⟨pod', h, .refl pod'⟩
  have hne' : items' ≠ [] := fun he => hne (he ▸ perm).eq_nil
  rcases exists_volumeSlot pod secondary binding with none | ⟨sources, put, slot, permuted⟩
  · obtain ⟨item, rest, rfl⟩ := List.exists_cons_of_ne_nil hne
    obtain ⟨mid, hmid, -⟩ := Merged.forEach_cons_eq_ok.1 h
    exact absurd hmid (none item mid)
  · obtain ⟨start, put', slot', permuted'⟩ :=
      exists_sourceSlot ("volume " ++ volumeName binding) secondary sources
    rw [(slot.comp slot').forEach hne, Merged.toResult_within, map_eq_ok] at h
    obtain ⟨out, hout, rfl⟩ := h
    obtain ⟨out', hout', hperm⟩ := (registers_addItem _).perm perm hout
    refine ⟨put (put' out'), ?_, permuted (permuted' hperm)⟩
    rw [(slot.comp slot').forEach hne', Merged.toResult_within, hout']
    rfl

/-- Variables in another order can be added to a container as well. -/
theorem variables_permuted {c c' : Container} {env env' : List EnvVar} (perm : env.Perm env')
    (h : (Merged.forEach (mergeEnv · · none) c env).toResult = .ok c') :
    ∃ c'', (Merged.forEach (mergeEnv · · none) c env').toResult = .ok c'' ∧ c'.Permuted c'' := by
  rcases eq_or_ne env [] with rfl | hne
  · obtain rfl := perm.nil_eq
    exact ⟨c', h, .refl c'⟩
  have hne' : env' ≠ [] := fun he => hne (he ▸ perm).eq_nil
  rw [(envSlot c).forEach hne, Merged.toResult_within, map_eq_ok] at h
  obtain ⟨out, hout, rfl⟩ := h
  obtain ⟨out', hout', hperm⟩ := (registers_addVariable _).perm perm hout
  refine ⟨{ c with env := some out' }, ?_, ⟨rfl, .some hperm⟩⟩
  rw [(envSlot c).forEach hne', Merged.toResult_within, hout']
  rfl

namespace Plan
variable {plan plan' : Plan} {mountBase : String}

theorem equip_permuted (h : plan.Permuted plan') {c c' : Container}
    (equipped : (plan.equip binding mountBase [] c).toResult = .ok c') :
    ∃ c'', (plan'.equip binding mountBase [] c).toResult = .ok c'' ∧ c'.Permuted c'' := by
  have hempty : plan'.items.isEmpty = plan.items.isEmpty := by
    rw [Bool.eq_iff_iff, List.isEmpty_iff, List.isEmpty_iff]
    exact ⟨fun he => (he ▸ h.items).eq_nil, fun he => (he ▸ h.items).nil_eq.symm⟩
  unfold equip at equipped ⊢
  rw [Merged.toResult_andThen, bind_eq_ok] at equipped
  obtain ⟨exposed, hexposed, equipped⟩ := equipped
  obtain rfl : exposed = c' := Except.ok.inj equipped
  rw [Merged.toResult_andThen, bind_eq_ok] at hexposed
  obtain ⟨mounted, hmounted, hexposed⟩ := hexposed
  obtain ⟨c'', hc'', permuted⟩ := variables_permuted h.env hexposed
  refine ⟨c'', ?_, permuted⟩
  rw [Merged.toResult_andThen, Merged.toResult_andThen, hempty, hmounted]
  refine bind_eq_ok.2 ⟨c'', hc'', rfl⟩

/-- Containers of which one has been replaced by another in its order. -/
theorem forall₂_replaceFirst {p : Container → Bool} {c c' : Container} (h : c.Permuted c') :
    (l : List Container) →
      List.Forall₂ Container.Permuted (replaceFirst p c l) (replaceFirst p c' l)
  | [] => .nil
  | a :: rest => by
    rw [replaceFirst, replaceFirst]
    split
    · exact .cons h (forall₂_refl .refl rest)
    · exact .cons (.refl a) (forall₂_replaceFirst h rest)

theorem apply_permuted (h : plan.Permuted plan')
    (applied : plan.apply binding mountBase [] pod = .ok pod') :
    ∃ pod'', plan'.apply binding mountBase [] pod = .ok pod'' ∧ pod'.Permuted pod'' := by
  unfold apply at applied ⊢
  rw [Merged.toResult_andThen, bind_eq_ok] at applied
  obtain ⟨mid, hmid, applied⟩ := applied
  have hfiles : (Merged.forEach (fun pod item =>
      addVolume pod (filesVolume plan.secondary binding [item])) pod plan.items).toResult =
      .ok mid := hmid
  obtain ⟨mid', hmid', permuted⟩ := files_permuted h.items hfiles
  rw [← h.secondary] at hmid'
  have hsame : mid'.containers = mid.containers :=
    (containers_of_forEach_addVolume hmid').trans (containers_of_forEach_addVolume hfiles).symm
  rw [Merged.toResult_andThen]
  have hserver : ∃ pod'', (inServer mid' (plan'.equip binding mountBase [])).toResult = .ok pod'' ∧
      pod'.Permuted pod'' := by
    unfold inServer at applied ⊢
    rw [hsame]
    cases hfind : mid.containers.find? (·.name == serverContainer) with
    | none =>
      rw [hfind] at applied
      cases applied
    | some c =>
      rw [hfind] at applied
      dsimp only at applied ⊢
      rw [Merged.toResult_within, map_eq_ok] at applied
      obtain ⟨c', hc', rfl⟩ := applied
      obtain ⟨c'', hc'', hperm⟩ := equip_permuted h hc'
      refine ⟨_, by rw [Merged.toResult_within, hc'']; rfl, ?_⟩
      refine ⟨?_, forall₂_replaceFirst hperm mid.containers, permuted.volumes⟩
      rw [permuted.rest]
  obtain ⟨pod'', hpod'', hperm⟩ := hserver
  exact ⟨pod'', bind_eq_ok.2 ⟨mid', hmid', hpod''⟩, hperm⟩

end Plan

end ServiceBinding.Binding
