import ServiceBinding.Binding.Names
import ServiceBinding.Instance.Validation

/-!
The names of bindings in a specification that has been checked: well-formed, and no two the same.
So no two bindings share a secondary secret or a volume.
-/
namespace ServiceBinding

theorem Binding.secondaryName_inj {owner a b : String} :
    secondaryName owner a = secondaryName owner b ↔ a = b := String.append_right_inj _

theorem Binding.volumeName_inj {a b : String} : volumeName a = volumeName b ↔ a = b :=
  String.append_right_inj _

theorem Binding.volumeName_notMem {b : Binding} {bs : List Binding}
    (apart : b.name ∉ bs.map (·.name)) : volumeName b.name ∉ bs.map (volumeName ·.name) := by
  intro hn
  obtain ⟨b', hb', he⟩ := List.mem_map.1 hn
  exact apart (List.mem_map.2 ⟨b', hb', volumeName_inj.1 he⟩)

theorem validateNames_eq_ok {seen : List String} {bs : List Binding}
    (h : validateNames seen bs = .ok ()) :
    (∀ b ∈ bs, isBindingName b.name = true ∧ b.name ∉ seen) ∧ (bs.map (·.name)).Nodup := by
  induction bs generalizing seen with
  | nil => simp
  | cons b rest ih =>
    unfold validateNames at h
    split at h
    · cases h
    · split at h
      · cases h
      · next hname hseen =>
        obtain ⟨hrest, hnodup⟩ := ih h
        simp only [Bool.not_eq_true', Bool.not_eq_false] at hname
        refine ⟨List.forall_mem_cons.2 ⟨⟨hname, by simpa using hseen⟩, fun b' hb' => ?_⟩, ?_⟩
        · exact ⟨(hrest b' hb').1, fun h => (hrest b' hb').2 (List.mem_cons_of_mem _ h)⟩
        · refine List.nodup_cons.2 ⟨fun h => ?_, hnodup⟩
          obtain ⟨b', hb', he⟩ := List.mem_map.1 h
          exact (hrest b' hb').2 (he ▸ List.mem_cons_self)

theorem InstanceSpec.validateNames_of_validate {s : InstanceSpec} (h : s.validate = .ok ()) :
    validateNames [] s.bindings = .ok () := by
  unfold validate at h
  split at h
  · cases h
  · split at h
    · cases h
    · exact h

/-- No two bindings of a checked specification have the same name. -/
theorem InstanceSpec.nodup_names {s : InstanceSpec} (h : s.validate = .ok ()) :
    (s.bindings.map (·.name)).Nodup :=
  (validateNames_eq_ok (validateNames_of_validate h)).2

theorem InstanceSpec.isBindingName_of_mem {s : InstanceSpec} (h : s.validate = .ok ()) {b : Binding}
    (hb : b ∈ s.bindings) : isBindingName b.name = true :=
  ((validateNames_eq_ok (validateNames_of_validate h)).1 b hb).1

end ServiceBinding
