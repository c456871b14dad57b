import ServiceBinding.Instance.Form
import ServiceBinding.Proofs.Json.Text

/-!
Declarations survive being written (`InstanceSpec.read_written`). A member is left out of a record
only if it has the value that is read where it is missing, so that every record is read back as it
was; and records list their members in the order of their keys, so that nothing is lost in the text
either.
-/
namespace ServiceBinding
open Json

/-! ### Values -/

theorem defaulted_unlessEmpty {α : Type} {read : Json → Option α} {write : α → Json}
    (h : Undoes read write) (l : List α) :
    defaulted (list? read) [] (unlessEmpty write l) = some l :=
  defaulted_unless h.ofList List.isEmpty_iff.1

theorem StoreKind.undoes : Undoes ofJson? toJson := by
  intro k
  cases k <;> rfl

theorem StoreTransform.undoes : Undoes ofJson? toJson := by
  intro t
  rw [ofJson?, toJson, ordered?_record _ (by simp)]
  simp [member, required_some StoreKind.undoes, required_some undoes_str,
    optional_map undoes_str nofun]

theorem Projection.undoes : Undoes ofJson? toJson := by
  intro p
  have hliteral : defaulted bool? false (if p.literal then some (bool true) else none) =
      some p.literal := by
    cases p.literal <;> rfl
  rw [ofJson?, toJson, ordered?_record _ (by simp)]
  simp [member, optional_map undoes_str nofun, optional_map StoreTransform.undoes nofun, hliteral]

theorem SourceRef.undoes : Undoes ofJson? toJson := by
  intro s
  rw [ofJson?, toJson, ordered?_record _ (by simp)]
  simp [member, required_some undoes_str, defaulted_some undoes_str,
    defaulted_some Projection.undoes.ofList]

theorem Preset.undoes : Undoes ofJson? toJson := by
  intro p
  have hsettings : defaulted (dict? text?) {}
      (if p.settings.isEmpty then none else some (textDict p.settings)) = some p.settings :=
    defaulted_unless undoes_str.ofDict Dict.isEmpty_iff.1
  rw [ofJson?, toJson, ordered?_record _ (by simp)]
  simp [member, required_some undoes_str, hsettings]

theorem Binding.undoes : Undoes ofJson? toJson := by
  intro b
  have hconf : defaulted text? "" (if b.conf.isEmpty then none else some (str b.conf)) =
      some b.conf :=
    defaulted_unless undoes_str String.isEmpty_iff.1
  rw [ofJson?, toJson, ordered?_record _ (by simp)]
  simp [member, required_some undoes_str, -String.isEmpty_iff, hconf,
    defaulted_unlessEmpty SourceRef.undoes, optional_map Preset.undoes nofun]

theorem InstanceSpec.undoes : Undoes ofJson? toJson := by
  intro s
  rw [ofJson?, toJson, ordered?_record _ (by simp)]
  simp [member, defaulted_some undoes_str, defaulted_some undoes_int32,
    defaulted_unlessEmpty undoes_str, defaulted_unlessEmpty Binding.undoes]

/-! ### Texts -/

@[simp] theorem memberExact_unlessEmpty {α : Type} {write : α → Json}
    (each : ∀ a, (write a).Exact) (l : List α) : MemberExact (unlessEmpty write l) :=
  memberExact_ite memberExact_none (memberExact_some.2 (exact_ofList each l))

theorem StoreTransform.exact_toJson (t : StoreTransform) : t.toJson.Exact :=
  exact_record (by simp only [List.map]; decide) (by simp [StoreKind.toJson])

theorem Projection.exact_toJson (p : Projection) : p.toJson.Exact :=
  exact_record (by simp only [List.map]; decide) (by simp [StoreTransform.exact_toJson])

theorem SourceRef.exact_toJson (s : SourceRef) : s.toJson.Exact :=
  exact_record (by simp only [List.map]; decide) (by simp [Projection.exact_toJson])

theorem Preset.exact_toJson (p : Preset) : p.toJson.Exact :=
  exact_record (by simp only [List.map]; decide) (by simp)

theorem Binding.exact_toJson (b : Binding) : b.toJson.Exact :=
  exact_record (by simp only [List.map]; decide)
    (by simp [SourceRef.exact_toJson, Preset.exact_toJson])

theorem InstanceSpec.exact_toJson (s : InstanceSpec) : s.toJson.Exact :=
  exact_record (by simp only [List.map]; decide) (by simp [Binding.exact_toJson])

/-- **Declarations survive being written.** Whatever is declared, with any bindings, sources,
projections, transforms and presets, is what is read from the value it is written as, and from the
text of that value. -/
theorem InstanceSpec.read_written (s : InstanceSpec) :
    ofJson? s.toJson = some s ∧
      (Reader.ofText? s.toJson.render).bind ofJson? = some s := by
  have hvalue : ofJson? s.toJson = some s := InstanceSpec.undoes s
  have htext : Reader.ofText? s.toJson.render = some s.toJson :=
    Reader.ofText?_render s.exact_toJson
  refine ⟨hvalue, ?_⟩
  rw [htext, Option.bind_some, hvalue]

end ServiceBinding
