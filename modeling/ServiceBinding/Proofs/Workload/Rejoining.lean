import ServiceBinding.Proofs.Text.Splitting
import ServiceBinding.Proofs.Workload.Merging

/-!
Merging a variable twice. The second merge always goes through, and it changes nothing just if the
value, where the first merge has put it behind a list, is a part of the list from then on
(`mergeEnv_again`). With a delimiter that does not overlap itself, that is so just if the value does
not hold the delimiter: a value that does is put behind the list again by each merge.
-/
namespace ServiceBinding.Workload
open Object

/-! ### Lists of values -/

section Lists
variable {delimiter list value : String}

theorem appendValue_of_part (part : value = "" ∨ value ∈ Text.split list delimiter) :
    appendValue delimiter list value = list := by
  unfold appendValue
  refine if_pos ?_
  rw [Bool.or_eq_true, String.isEmpty_iff, List.contains_iff_mem]
  exact part

theorem appendValue_of_new (filled : value ≠ "") (new : value ∉ Text.split list delimiter) :
    appendValue delimiter list value =
      if list = "" then value else list ++ delimiter ++ value := by
  unfold appendValue
  rw [if_neg]
  · simp only [String.isEmpty_iff]
  · rw [Bool.or_eq_true, String.isEmpty_iff, List.contains_iff_mem, not_or]
    exact ⟨filled, new⟩

theorem append_ne_self (list_ne : list ≠ "") : list ++ delimiter ++ value ≠ value := by
  intro he
  have := congrArg String.length he
  have : list.length ≠ 0 := fun h0 => list_ne (String.length_eq_zero_iff.1 h0)
  simp only [String.length_append] at *
  omega

/-- What has been put behind a list is put there once more unless it is a part of it now. -/
theorem appendValue_joined (filled : value ≠ "") (list_ne : list ≠ "") :
    appendValue delimiter (list ++ delimiter ++ value) value = list ++ delimiter ++ value ↔
      value ∈ Text.split (list ++ delimiter ++ value) delimiter := by
  refine ⟨fun h => ?_, fun part => appendValue_of_part (.inr part)⟩
  by_contra new
  rw [appendValue_of_new filled new, if_neg (by simp [list_ne])] at h
  have := congrArg String.length h
  have : value.length ≠ 0 := fun h0 => filled (String.length_eq_zero_iff.1 h0)
  simp only [String.length_append] at *
  omega

end Lists

/-! ### Variables -/

/-- Whether merging a variable puts its value behind a list: both variables are plain, the known one
has a list, neither empty nor the value itself, and the value is not empty and no part of it. -/
structure Extends (known added : EnvVar) (delimiter list value : String) : Prop where
  plain : known.valueFrom = none ∧ added.valueFrom = none
  known : known.value = some list
  added : added.value = some value
  list_ne : list ≠ ""
  value_ne : value ≠ ""
  other : value ≠ list
  new : value ∉ Text.split list delimiter

section Variables
variable {context d list value : String} {delimiter : Option String} {known added merged : EnvVar}

theorem mergeVariable_self (context : String) (delimiter : Option String) (var : EnvVar) :
    mergeVariable context delimiter var var = .done var :=
  if_pos rfl

theorem mergeVariable_plain (ne : known ≠ added) (plain : known.valueFrom = none)
    (plain' : added.valueFrom = none) :
    mergeVariable context (some d) known added = .done { known with
      value := some (appendValue d (known.value.getD "") (added.value.getD "")) } := by
  unfold mergeVariable
  dsimp only
  rw [if_neg ne, if_neg (by simp [plain, plain'])]

/-- Two variables are united if they are one, or both are plain and there is a delimiter. -/
theorem mergeVariable_cases
    (h : (mergeVariable context delimiter known added).toResult = .ok merged) :
    known = added ∧ merged = added ∨
      known ≠ added ∧ known.valueFrom = none ∧ added.valueFrom = none ∧ ∃ d, delimiter = some d ∧
        merged = { known with
          value := some (appendValue d (known.value.getD "") (added.value.getD "")) } := by
  by_cases he : known = added
  · subst he
    rw [mergeVariable_self] at h
    exact .inl ⟨rfl, (Except.ok.inj h).symm⟩
  refine .inr ⟨he, ?_⟩
  unfold mergeVariable at h
  dsimp only at h
  rw [if_neg he] at h
  split at h
  · cases h
  · next hplain =>
    rw [Bool.or_eq_true, not_or, Option.not_isSome_iff_eq_none, Option.not_isSome_iff_eq_none]
      at hplain
    cases delimiter with
    | none => cases h
    | some d => exact ⟨hplain.1, hplain.2, d, rfl, (Except.ok.inj h).symm⟩

/-- What is not nothing in a text that may be absent is there. -/
theorem eq_some_of_getD_ne {text : Option String} (filled : text.getD "" ≠ "") :
    text = some (text.getD "") := by
  cases text with
  | none => exact absurd rfl filled
  | some text => rfl

/-- A value that goes behind no list has become all there is, or does not count. -/
theorem eq_or_appendValue_eq (named : known.name = added.name) (ne : known ≠ added)
    (plain : known.valueFrom = none) (plain' : added.valueFrom = none)
    (short : ¬ Extends known added d (known.value.getD "") (added.value.getD "")) :
    let list := appendValue d (known.value.getD "") (added.value.getD "")
    { known with value := some list } = added ∨
      appendValue d list (added.value.getD "") = list := by
  obtain ⟨name, value, _⟩ := known
  obtain ⟨_, value', _⟩ := added
  subst named plain plain'
  intro list
  by_cases part : value'.getD "" = "" ∨ value'.getD "" ∈ Text.split (value.getD "") d
  · have hlist : list = value.getD "" := appendValue_of_part part
    rw [hlist]
    exact .inr (appendValue_of_part part)
  rw [not_or] at part
  have hvalue := eq_some_of_getD_ne part.1
  by_cases hempty : value.getD "" = ""
  · have hlist : list = value'.getD "" :=
      (appendValue_of_new part.1 part.2).trans (if_pos hempty)
    left
    rw [hlist, ← hvalue]
  · have hknown := eq_some_of_getD_ne hempty
    refine absurd ⟨⟨rfl, rfl⟩, hknown, hvalue, hempty, part.1, fun he => ne ?_, part.2⟩ short
    dsimp only
    rw [hknown, hvalue, he]

/-- Merging a variable again whose value has gone behind a list goes through, and changes nothing
just if the value is a part of that list now. -/
theorem mergeVariable_again_of_extends (behind : Extends known added d list value) :
    let merged := { known with value := some (list ++ d ++ value) }
    ∃ again, mergeVariable context (some d) merged added = .done again ∧
      (again = merged ↔ value ∈ Text.split (list ++ d ++ value) d) := by
  intro merged
  have ne : merged ≠ added := fun he => by
    have := congrArg EnvVar.value he
    rw [behind.added, Option.some_inj] at this
    exact append_ne_self behind.list_ne this
  refine ⟨_, mergeVariable_plain ne behind.plain.1 behind.plain.2, ?_⟩
  rw [EnvVar.mk.injEq, and_iff_right rfl, and_iff_left rfl, behind.added, Option.some_inj]
  exact appendValue_joined behind.value_ne behind.list_ne

/-- Merging a variable again whose value has gone behind no list changes nothing. -/
theorem mergeVariable_again_of_short (named : known.name = added.name) (ne : known ≠ added)
    (plain : known.valueFrom = none) (plain' : added.valueFrom = none)
    (short : ¬ Extends known added d (known.value.getD "") (added.value.getD "")) :
    let merged := { known with
      value := some (appendValue d (known.value.getD "") (added.value.getD "")) }
    mergeVariable context (some d) merged added = .done merged := by
  intro merged
  by_cases he : merged = added
  · rw [he]
    exact mergeVariable_self _ _ _
  · have hfixed := (eq_or_appendValue_eq named ne plain plain' short).resolve_left he
    rw [mergeVariable_plain he plain plain']
    exact congrArg (fun list => Merged.done { known with value := some list }) hfixed

/-- Merging a variable again goes through, and changes nothing just if its value, where it has gone
behind a list, is a part of that list now. -/
theorem mergeVariable_again (named : known.name = added.name)
    (h : (mergeVariable context delimiter known added).toResult = .ok merged) :
    ∃ again, mergeVariable context delimiter merged added = .done again ∧
      (again = merged ↔ ∀ d list value, delimiter = some d → Extends known added d list value →
        value ∈ Text.split (list ++ d ++ value) d) := by
  obtain ⟨rfl, rfl⟩ | ⟨ne, plain, plain', d, rfl, rfl⟩ := mergeVariable_cases h
  · refine ⟨_, mergeVariable_self _ _ _, fun _ d list value _ behind => ?_, fun _ => rfl⟩
    exact absurd (Option.some.inj (behind.added.symm.trans behind.known)) behind.other
  have sole : ∀ {list value}, Extends known added d list value →
      known.value.getD "" = list ∧ added.value.getD "" = value := fun h =>
    ⟨by rw [h.known, Option.getD_some], by rw [h.added, Option.getD_some]⟩
  by_cases behind : Extends known added d (known.value.getD "") (added.value.getD "")
  · rw [appendValue_of_new behind.value_ne behind.new, if_neg behind.list_ne]
    obtain ⟨again, hagain, hsame⟩ := mergeVariable_again_of_extends behind
    refine ⟨again, hagain, hsame.trans ⟨?_, fun h => h d _ _ rfl behind⟩⟩
    rintro part _ list value ⟨⟩ h
    obtain ⟨rfl, rfl⟩ := sole h
    exact part
  · refine ⟨_, mergeVariable_again_of_short named ne plain plain' behind, iff_of_true rfl ?_⟩
    rintro _ list value ⟨⟩ h
    obtain ⟨rfl, rfl⟩ := sole h
    exact absurd h behind

end Variables

/-! ### Containers -/

section Containers
variable {c c' : Container} {var : EnvVar} {delimiter : Option String}

/-- A variable of a free name comes last. -/
theorem mergeEnv_of_free (free : envVar? c var.name = none) :
    mergeEnv c var delimiter = .done { c with env := some (c.env.getD [] ++ [var]) } := by
  unfold mergeEnv
  dsimp only
  rw [show (c.env.getD []).find? (·.name == var.name) = none from free]
  rfl

/-- A container with another variable in place of the first one of a name. -/
def withVariable (c : Container) (name : String) (var : EnvVar) : Container :=
  { c with env := some (replaceFirst (·.name == name) var (c.env.getD [])) }

theorem envVar?_withVariable {name : String} {known : EnvVar}
    (there : envVar? c name = some known) (named : (var.name == name) = true) :
    envVar? (withVariable c name var) name = some var :=
  find?_replaceFirst there named

theorem withVariable_withVariable {name : String} {other : EnvVar}
    (named : (var.name == name) = true) :
    withVariable (withVariable c name var) name other = withVariable c name other := by
  have hreplaced : replaceFirst (·.name == name) other
      (replaceFirst (·.name == name) var (c.env.getD [])) =
        replaceFirst (·.name == name) other (c.env.getD []) := replaceFirst_replaceFirst named
  exact congrArg (fun env => { c with env := some env }) hreplaced

theorem mergeEnv_of_known {known : EnvVar} (there : envVar? c var.name = some known) :
    mergeEnv c var delimiter =
      (mergeVariable (containerContext c) delimiter known var).within
        (withVariable c var.name) := by
  unfold mergeEnv
  dsimp only
  rw [show (c.env.getD []).find? (·.name == var.name) = some known from there]
  rfl

/-- A variable that came last is merged into itself. -/
theorem mergeEnv_again_of_free (free : envVar? c var.name = none) :
    mergeEnv { c with env := some (c.env.getD [] ++ [var]) } var delimiter =
      .done { c with env := some (c.env.getD [] ++ [var]) } := by
  have there : envVar? { c with env := some (c.env.getD [] ++ [var]) } var.name = some var :=
    (find?_append_new free var.name).trans (if_pos rfl)
  have hself : replaceFirst (·.name == var.name) var (c.env.getD [] ++ [var]) =
      c.env.getD [] ++ [var] := replaceFirst_self there
  rw [mergeEnv_of_known there, mergeVariable_self]
  exact congrArg (fun env => Merged.done { c with env := some env }) hself

/-- Merging a variable into a container again goes through, and changes nothing just if its value,
where it has gone behind a list, is a part of that list now. -/
theorem exists_mergeEnv_again (h : (mergeEnv c var delimiter).toResult = .ok c') :
    ∃ again, mergeEnv c' var delimiter = .done again ∧
      (again = c' ↔ ∀ d known list value, delimiter = some d → envVar? c var.name = some known →
        Extends known var d list value → value ∈ Text.split (list ++ d ++ value) d) := by
  cases hknown : envVar? c var.name with
  | none =>
    rw [mergeEnv_of_free hknown] at h
    obtain rfl := Except.ok.inj h
    exact ⟨_, mergeEnv_again_of_free hknown, iff_of_true rfl nofun⟩
  | some known =>
    rw [mergeEnv_of_known hknown, Merged.toResult_within, map_eq_ok] at h
    obtain ⟨merged, hm, rfl⟩ := h
    have hname : (known.name == var.name) = true :=
      List.find?_some (p := fun known : EnvVar => known.name == var.name) hknown
    obtain ⟨again, hagain, hsame⟩ := mergeVariable_again (beq_iff_eq.1 hname) hm
    have hmerged : (merged.name == var.name) = true := by
      rw [(mergeVariable_eq_ok hm).1]
      exact hname
    have hagain_name : (again.name == var.name) = true := by
      have hdone : Merged.toResult _ = .ok again := congrArg Merged.toResult hagain
      rw [(mergeVariable_eq_ok hdone).1]
      exact hmerged
    have there := envVar?_withVariable hknown hmerged
    refine ⟨withVariable c var.name again, ?_, ?_⟩
    · rw [mergeEnv_of_known there]
      refine (congrArg (Merged.within _) hagain).trans ?_
      exact congrArg Merged.done (withVariable_withVariable hmerged)
    have hiff : withVariable c var.name again = withVariable c var.name merged ↔
        again = merged := by
      refine ⟨fun he => ?_, congrArg _⟩
      exact Option.some.inj ((envVar?_withVariable hknown hagain_name).symm.trans (he ▸ there))
    rw [hiff, hsame]
    constructor
    · rintro h d _ list value hd ⟨⟩
      exact h d list value hd
    · exact fun h d list value hd => h d known list value hd rfl

/-- **A merge repeated**: for every container, variable and delimiter, a merge that has gone through
goes through again. It changes nothing then just if the value, where it went behind a list, is a
part of that list now. Without a delimiter that is always so; with one that does not overlap itself
it is so just if the value does not hold the delimiter. -/
theorem mergeEnv_again (c : Container) (var : EnvVar) (delimiter : Option String) (c' : Container)
    (merged : (mergeEnv c var delimiter).toResult = .ok c') :
    ∃ again, mergeEnv c' var delimiter = .done again ∧
      (again = c' ↔ ∀ d known list value, delimiter = some d → envVar? c var.name = some known →
        Extends known var d list value → value ∈ Text.split (list ++ d ++ value) d) ∧
      ∀ d, delimiter = some d → d ≠ "" → ¬ Text.Overlaps d.toList →
        (again = c' ↔ ∀ known list value, envVar? c var.name = some known →
          Extends known var d list value → ¬ d.toList <:+: value.toList) := by
  obtain ⟨again, hagain, hsame⟩ := exists_mergeEnv_again merged
  refine ⟨again, hagain, hsame, ?_⟩
  rintro d rfl ne clear
  rw [hsame]
  constructor
  · intro h known list value hknown behind
    exact (Text.mem_split_append ne clear behind.new).1 (h d known list value rfl hknown behind)
  · rintro h _ known list value ⟨⟩ hknown behind
    exact (Text.mem_split_append ne clear behind.new).2 (h known list value hknown behind)

end Containers

/-- A container with a list of templates. -/
def listing (templates : String) : Container :=
  { name := serverContainer, env := some [.plain templatesVariable templates] }

/-- A template is listed once, however often it is added. -/
theorem mergeEnv_again_template :
    let es := EnvVar.plain templatesVariable "es"
    (mergeEnv (listing "default") es (some templatesDelimiter)).toResult =
        .ok (listing "default,es") ∧
      mergeEnv (listing "default,es") es (some templatesDelimiter) =
        .done (listing "default,es") := by
  intro es
  have merged : (mergeEnv (listing "default") es (some templatesDelimiter)).toResult =
      .ok (listing "default,es") := by decide +kernel
  obtain ⟨again, hagain, _, hclear⟩ := mergeEnv_again _ _ _ _ merged
  have hsame := (hclear _ rfl (by decide) (Text.not_overlaps_singleton ',')).2 ?_
  · exact ⟨merged, hagain.trans (congrArg Merged.done hsame)⟩
  · intro known list value _ behind
    obtain rfl : "es" = value := Option.some.inj behind.added
    exact mt (List.singleton_infix_iff ',' _).1 (by decide)

/-- A value that holds the delimiter goes behind the list with each merge, and so does one before
which the end of the list and the delimiter hold the delimiter earlier. -/
theorem not_unchanged_delimited :
    let both := EnvVar.plain templatesVariable "es,pg"
    let c := EnvVar.plain templatesVariable "c"
    (mergeEnv (listing "default") both (some ",")).toResult = .ok (listing "default,es,pg") ∧
      (mergeEnv (listing "default,es,pg") both (some ",")).toResult =
        .ok (listing "default,es,pg,es,pg") ∧
      (mergeEnv (listing "ba") c (some "aa")).toResult = .ok (listing "baaac") ∧
      (mergeEnv (listing "baaac") c (some "aa")).toResult = .ok (listing "baaacaac") := by
  decide +kernel

end ServiceBinding.Workload
