import ServiceBinding.Proofs.Workload.Listing
import ServiceBinding.Proofs.Workload.Rejoining

/-!
The list of templates that a container has. Templates without commas that are added one after the
other are one plain variable, the list of those that are not empty, each where it comes first
(`Enables.addTemplates`). The text is split at its commas at every step, which gives back just what
has been joined (`appendValue_joinTemplates`).
-/
namespace ServiceBinding.Workload
open Object

/-! ### Texts -/

/-- The templates that count: those that are not empty, each where it comes first. -/
def counted (templates : List String) : List String :=
  (templates.filter (· ≠ "")).eraseDups

/-- The list of templates as one text. -/
def joinTemplates (templates : List String) : String :=
  templatesDelimiter.intercalate (counted templates)

section Texts
variable {templates : List String} {template : String}

theorem mem_counted : template ∈ counted templates ↔ template ∈ templates ∧ template ≠ "" := by
  unfold counted
  rw [List.mem_eraseDups, List.mem_filter, decide_eq_true_eq]

theorem counted_append_known (known : template = "" ∨ template ∈ counted templates) :
    counted (templates ++ [template]) = counted templates := by
  unfold counted
  rw [List.filter_append, List.filter_singleton]
  by_cases hempty : template = ""
  · rw [hempty]
    simp
  · have hmem : template ∈ templates.filter (· ≠ "") :=
      List.mem_eraseDups.1 (known.resolve_left hempty)
    rw [decide_eq_true hempty, cond_true, eraseDups_append_of_mem hmem]

theorem counted_append_new (filled : template ≠ "") (new : template ∉ counted templates) :
    counted (templates ++ [template]) = counted templates ++ [template] := by
  unfold counted at *
  rw [List.filter_append, List.filter_singleton, decide_eq_true filled, cond_true,
    eraseDups_append_of_notMem (mt List.mem_eraseDups.2 new)]

/-- The list of templates is split into them. -/
theorem split_joinTemplates (plain : ∀ t ∈ templates, ',' ∉ t.toList)
    (ne : counted templates ≠ []) :
    Text.split (joinTemplates templates) templatesDelimiter = counted templates :=
  Text.split_intercalate ne fun t ht => plain t (mem_counted.1 ht).1

/-- The list of templates is empty just if none counts. -/
theorem joinTemplates_eq_empty : joinTemplates templates = "" ↔ counted templates = [] := by
  unfold joinTemplates
  cases h : counted templates with
  | nil => simp
  | cons t rest =>
    have ht : t ≠ "" := (mem_counted.1 (h ▸ List.mem_cons_self)).2
    refine iff_of_false (fun he => ?_) (List.cons_ne_nil t rest)
    cases rest with
    | nil => exact ht (String.intercalate_singleton.symm.trans he)
    | cons u rest =>
      rw [String.intercalate_cons_cons, String.append_eq_empty_iff, String.append_eq_empty_iff]
        at he
      exact ht he.1.1

theorem joinTemplates_singleton (template : String) : joinTemplates [template] = template := by
  by_cases hempty : template = ""
  · rw [hempty]
    exact joinTemplates_eq_empty.2 rfl
  · have hnew : template ∉ counted [] := fun h => nomatch (mem_counted.1 h).1
    have hone : counted ([] ++ [template]) = [template] := counted_append_new hempty hnew
    rw [joinTemplates, ← List.nil_append [template], hone, String.intercalate_singleton]

/-- A template that is appended to the list counts where it comes first. -/
theorem appendValue_joinTemplates (plain : ∀ t ∈ templates, ',' ∉ t.toList) :
    appendValue templatesDelimiter (joinTemplates templates) template =
      joinTemplates (templates ++ [template]) := by
  by_cases hempty : template = ""
  · rw [appendValue_of_part (.inl hempty), joinTemplates, joinTemplates,
      counted_append_known (.inl hempty)]
  by_cases hnone : counted templates = []
  · have hjoined : joinTemplates templates = "" := joinTemplates_eq_empty.2 hnone
    have hsplit : Text.split "" templatesDelimiter = [""] :=
      Text.split_of_notMem (show ',' ∉ "".toList from List.not_mem_nil)
    rw [hjoined, appendValue_of_new hempty (by simpa [hsplit] using hempty), if_pos rfl,
      joinTemplates, counted_append_new hempty (by simp [hnone]), hnone, List.nil_append,
      String.intercalate_singleton]
  · have hsplit := split_joinTemplates plain hnone
    by_cases hmem : template ∈ counted templates
    · rw [appendValue_of_part (.inr (hsplit ▸ hmem)), joinTemplates, joinTemplates,
        counted_append_known (.inr hmem)]
    · rw [appendValue_of_new hempty (hsplit ▸ hmem), if_neg (mt joinTemplates_eq_empty.1 hnone),
        joinTemplates, joinTemplates, counted_append_new hempty hmem,
        String.intercalate_append_of_ne_nil hnone (List.cons_ne_nil _ _),
        String.intercalate_singleton]

end Texts

/-! ### Containers -/

/-- The variables that list templates: none if there are no templates, else one. -/
def enabling (templates : List String) : List EnvVar :=
  if templates.isEmpty then [] else [.plain templatesVariable (joinTemplates templates)]

/-- Whether a container runs the server and lists some templates. -/
structure Enables (c : Container) (templates : List String) : Prop where
  server : c.name = serverContainer
  listed : (c.env.getD []).filter (·.name == templatesVariable) = enabling templates

/-- Plain variables of one name are united by their texts, if the second one has no comma. -/
theorem mergeVariable_list (context name text value : String) (plain : ',' ∉ value.toList) :
    mergeVariable context (some templatesDelimiter) (.plain name text) (.plain name value) =
      .done (.plain name (appendValue templatesDelimiter text value)) := by
  by_cases same : text = value
  · have hsplit : Text.split value templatesDelimiter = [value] := Text.split_of_notMem plain
    have happend : appendValue templatesDelimiter value value = value :=
      appendValue_of_part (.inr (hsplit ▸ List.mem_singleton_self value))
    rw [same, happend]
    exact mergeVariable_self _ _ _
  · exact mergeVariable_plain (fun he => same (Option.some.inj (EnvVar.mk.inj he).2.1)) rfl rfl

section Containers
variable {c c' : Container} {templates : List String}

/-- One template more. -/
theorem Enables.mergeTemplate {template : String} (plain : ∀ t ∈ templates, ',' ∉ t.toList)
    (plain' : ',' ∉ template.toList)
    (h : (mergeEnv c (.plain templatesVariable template) (some templatesDelimiter)).toResult =
      .ok c') (enables : Enables c templates) : Enables c' (templates ++ [template]) := by
  obtain ⟨server, listed⟩ := enables
  have hnew : enabling (templates ++ [template]) =
      [.plain templatesVariable (joinTemplates (templates ++ [template]))] :=
    if_neg (by simp)
  by_cases hnone : templates = []
  · subst hnone
    have free : envVar? c templatesVariable = none :=
      List.find?_eq_none.2 (List.filter_eq_nil_iff.1 listed)
    rw [mergeEnv_of_free free] at h
    cases h
    refine ⟨server, ?_⟩
    show (c.env.getD [] ++ [_]).filter _ = _
    rw [List.filter_append, listed, hnew, List.nil_append, joinTemplates_singleton]
    rfl
  · have hlisted : enabling templates = [.plain templatesVariable (joinTemplates templates)] :=
      if_neg (by simpa using hnone)
    rw [hlisted] at listed
    have there : envVar? c templatesVariable =
        some (.plain templatesVariable (joinTemplates templates)) := by
      rw [envVar?, ← List.head?_filter, listed]
      rfl
    rw [mergeEnv_of_known there, mergeVariable_list _ _ _ _ plain'] at h
    cases h
    refine ⟨server, ?_⟩
    show (replaceFirst _ _ (c.env.getD [])).filter _ = _
    rw [hnew, ← appendValue_joinTemplates plain]
    exact filter_replaceFirst listed rfl

/-- Templates without commas that are added to a list come behind it. -/
theorem Enables.addTemplates {added : List String}
    (plain : ∀ t ∈ templates ++ added, ',' ∉ t.toList)
    (h : (addTemplates c added).toResult = .ok c') (enables : Enables c templates) :
    Enables c' (templates ++ added) := by
  obtain ⟨plain, hadded⟩ := List.forall_mem_append.1 plain
  refine (Merged.forEach_induction (R := fun before mid => (∀ t ∈ before, ',' ∉ t.toList) ∧
    Enables mid (templates ++ before)) ?_ ?_ h).2
  · rw [List.append_nil]
    exact ⟨nofun, enables⟩
  · rintro before template mid mid' ht ⟨hbefore, enables⟩ hmid
    have hplain := List.forall_mem_append.2 ⟨plain, hbefore⟩
    rw [← List.append_assoc]
    exact ⟨List.forall_mem_append.2 ⟨hbefore, List.forall_mem_singleton.2 (hadded template ht)⟩,
      enables.mergeTemplate hplain (hadded template ht) hmid⟩

/-- Another variable leaves the list of templates as it is. -/
theorem Enables.mergeEnv {var : EnvVar} (other : var.name ≠ templatesVariable)
    (h : (mergeEnv c var none).toResult = .ok c') (enables : Enables c templates) :
    Enables c' templates := by
  cases hknown : envVar? c var.name with
  | none =>
    rw [mergeEnv_of_free hknown] at h
    cases h
    refine ⟨enables.server, ?_⟩
    show (c.env.getD [] ++ [var]).filter _ = _
    rw [List.filter_append, enables.listed, List.filter_cons_of_neg (by simpa using other),
      List.filter_nil, List.append_nil]
  | some known =>
    rw [mergeEnv_of_known hknown, Merged.toResult_within, map_eq_ok] at h
    obtain ⟨merged, hm, rfl⟩ := h
    -- Without a delimiter the variable is the one that is there.
    obtain ⟨rfl, rfl⟩ := (mergeVariable_eq_ok hm).2 rfl
    refine ⟨enables.server, ?_⟩
    show (replaceFirst _ _ (c.env.getD [])).filter _ = _
    rw [replaceFirst_self hknown]
    exact enables.listed

theorem Enables.forEach_mergeEnv {vars : List EnvVar}
    (other : ∀ var ∈ vars, var.name ≠ templatesVariable)
    (h : (Merged.forEach (Workload.mergeEnv · · none) c vars).toResult = .ok c')
    (enables : Enables c templates) : Enables c' templates := by
  refine Merged.forEach_induction (R := fun _ mid => Enables mid templates) enables ?_ h
  intro _ var mid mid' hvar enables hmid
  exact enables.mergeEnv (other var hvar) hmid

theorem Enables.addMount {m : Mount} (h : (addMount c m).toResult = .ok c')
    (enables : Enables c templates) : Enables c' templates := by
  unfold Workload.addMount at h
  dsimp only at h
  split at h
  · cases h
    exact ⟨enables.server, enables.listed⟩
  · split at h
    · cases h
      exact ⟨enables.server, enables.listed⟩
    · cases h

end Containers

end ServiceBinding.Workload
