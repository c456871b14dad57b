import Mathlib.Data.List.Infix
import ServiceBinding.Binding.Expansion

/-!
What a configuration refers to: variables by their placeholders, and files by their paths. How a
text is put together says which ones these are. A text that is spelled from characters other than
the dollar sign and from placeholders mentions just the variables of the latter
(`Spells.infix_iff`). A text in which each slash is part of the directory's path before a file,
or of two before an address, names just those files (`Leads.follows_iff`): what stands between
has a dollar sign, which is in no directory.
-/
namespace ServiceBinding.Binding

/-- Whether a text mentions a variable: its placeholder, which goes up to the first closing brace,
is part of the text. -/
def Mentions (text name : String) : Prop :=
  '}' ∉ name.toList ∧ (placeholder name).toList <:+: text.toList

/-- Whether a text names a file of a directory: the path of the directory is part of the text, and
the file is what follows on the line. -/
def NamesFile (text dir file : String) : Prop :=
  '\n' ∉ file.toList ∧ ∃ before after,
    text.toList = before ++ (dir ++ "/" ++ file).toList ++ after ∧
      (after = [] ∨ ∃ rest, after = '\n' :: rest)

section Lists
variable {s t g m x y : List Char} {c : Char}

/-! ### Variables -/

/-- The variables whose placeholders a text is spelled with. -/
inductive Spells : List Char → List String → Prop
  | nil : Spells [] []
  | plain {c : Char} {s : List Char} {names : List String} (other : c ≠ '$')
      (rest : Spells s names) : Spells (c :: s) names
  | mention {name : String} {s : List Char} {names : List String} (closed : '}' ∉ name.toList)
      (clear : '$' ∉ name.toList) (rest : Spells s names) :
    Spells ((placeholder name).toList ++ s) (name :: names)

theorem Spells.append {names names' : List String} (h : Spells s names) (h' : Spells t names') :
    Spells (s ++ t) (names ++ names') := by
  induction h with
  | nil => exact h'
  | plain other _ ih => exact .plain other ih
  | mention closed clear _ ih =>
    rw [List.append_assoc]
    exact .mention closed clear ih

theorem Spells.of_notMem (h : '$' ∉ s) : Spells s [] := by
  induction s with
  | nil => exact .nil
  | cons c rest ih =>
    rw [List.mem_cons, not_or] at h
    exact .plain (Ne.symm h.1) (ih h.2)

/-- What begins with a character that is not in a list is no part that begins there. -/
theorem infix_append_of_notMem (h : c ∉ s) : c :: x <:+: s ++ t ↔ c :: x <:+: t := by
  induction s with
  | nil => rfl
  | cons a rest ih =>
    rw [List.mem_cons, not_or] at h
    rw [List.cons_append, List.infix_cons_iff, ih h.2, or_iff_right]
    intro hstart
    exact h.1 (List.cons_prefix_cons.1 hstart).1

/-- What stands before the first of some character is determined. -/
theorem eq_of_before (hs : c ∉ s) (ht : c ∉ t) (h : s ++ [c] <+: t ++ c :: x) : s = t := by
  induction s generalizing t with
  | nil =>
    cases t with
    | nil => rfl
    | cons b t => exact absurd (List.cons_prefix_cons.1 h).1 (List.ne_of_not_mem_cons ht)
  | cons a s ih =>
    cases t with
    | nil => exact absurd (List.cons_prefix_cons.1 h).1.symm (List.ne_of_not_mem_cons hs)
    | cons b t =>
      rw [List.cons_append, List.cons_append, List.cons_prefix_cons] at h
      rw [h.1, ih (List.not_mem_of_not_mem_cons hs) (List.not_mem_of_not_mem_cons ht) h.2]

theorem toList_placeholder (name : String) :
    (placeholder name).toList = '$' :: ("\x7benv:".toList ++ (name.toList ++ ['}'])) := by
  unfold placeholder
  rw [String.toList_append, String.toList_append, List.append_assoc]
  rfl

/-- **A text mentions the variables that it is spelled with**, and no other. -/
theorem Spells.infix_iff {names : List String} (h : Spells s names) {name : String}
    (closed : '}' ∉ name.toList) : (placeholder name).toList <:+: s ↔ name ∈ names := by
  induction h with
  | nil => simp [toList_placeholder]
  | plain other _ ih =>
    rw [List.infix_cons_iff, ih, or_iff_right]
    rw [toList_placeholder]
    exact fun hstart => other (List.cons_prefix_cons.1 hstart).1.symm
  | @mention name' s names closed' clear _ ih =>
    have hopen : '$' ∉ "\x7benv:".toList ++ (name'.toList ++ ['}']) := by
      simp only [List.mem_append, not_or]
      exact ⟨by decide, clear, by decide⟩
    have hfirst : (placeholder name).toList <+: (placeholder name').toList ++ s ↔ name = name' := by
      constructor
      · rw [toList_placeholder, toList_placeholder, List.cons_append, List.cons_prefix_cons,
          List.append_assoc, List.prefix_append_right_inj, List.append_assoc]
        exact fun hstart => String.toList_inj.1 (eq_of_before closed closed' hstart.2)
      · rintro rfl
        exact List.prefix_append _ _
    have hrest : (placeholder name).toList <:+:
        "\x7benv:".toList ++ (name'.toList ++ ['}']) ++ s ↔ name ∈ names := by
      rw [← ih, toList_placeholder name, infix_append_of_notMem hopen]
    rw [toList_placeholder name', List.cons_append, List.infix_cons_iff, hrest, List.mem_cons,
      ← List.cons_append, ← toList_placeholder, hfirst]

/-! ### Files -/

/-- The path of a directory with a slash at its end, from what stands between the first slash and
the last. -/
def slashed (m : List Char) : List Char := '/' :: (m ++ ['/'])

/-- A text ends with a slash if it is what a path of a directory ends with. -/
theorem slash_mem_of_append {a b : List Char} (h : slashed m = a ++ b) (ne : b ≠ []) : '/' ∈ b := by
  have hlast : (slashed m).getLast? = some '/' := by
    unfold slashed
    rw [← List.cons_append, List.getLast?_append]
    rfl
  rw [h, List.getLast?_append, List.getLast?_eq_some_getLast ne, Option.some_or,
    Option.some.injEq] at hlast
  exact hlast ▸ List.getLast_mem ne

/-- A path of a directory without dollar signs is on one side of a text that has such a sign and no
slash. -/
theorem slashed_append_cases (clear : '$' ∉ m) (free : '/' ∉ g) (closed : '$' ∈ g)
    (h : x ++ (slashed m ++ y) = s ++ (g ++ t)) :
    (∃ y', s = x ++ (slashed m ++ y') ∧ y = y' ++ (g ++ t)) ∨
      ∃ x', t = x' ++ (slashed m ++ y) ∧ x = s ++ (g ++ x') := by
  rcases List.append_eq_append_iff.1 h with ⟨a, rfl, ha⟩ | ⟨b, rfl, hb⟩
  · -- The directory begins on the left. If it went on from there, it would end in the text between.
    rcases List.append_eq_append_iff.1 ha with ⟨y', rfl, hy⟩ | ⟨c, hsplit, hc⟩
    · exact .inl ⟨y', rfl, hy⟩
    · by_cases hne : c = []
      · subst hne
        rw [List.append_nil] at hsplit
        exact .inl ⟨[], by rw [List.append_nil, hsplit], hc.symm⟩
      · have hslash := slash_mem_of_append hsplit hne
        have hdollar : '$' ∉ c := by
          intro hmem
          have hwhole : '$' ∈ slashed m := hsplit ▸ List.mem_append_right a hmem
          simp [slashed, clear] at hwhole
        rcases List.append_eq_append_iff.1 hc with ⟨d, rfl, -⟩ | ⟨d, rfl, -⟩
        · exact absurd (List.mem_append_left _ closed) hdollar
        · exact absurd (List.mem_append_left _ hslash) free
  · -- The directory begins behind the left, where the text between has no slash for it.
    rcases List.append_eq_append_iff.1 hb with ⟨x', rfl, ht⟩ | ⟨d, rfl, hd⟩
    · exact .inr ⟨x', ht, rfl⟩
    · cases d with
      | nil => exact .inr ⟨[], hd.symm, by rw [List.append_nil, List.append_nil]⟩
      | cons c d =>
        have hfirst : '/' = c := (List.cons.inj hd).1
        exact absurd (List.mem_append_right b (hfirst ▸ List.mem_cons_self)) free

/-- The files whose paths in a directory a text leads to. -/
inductive Leads (m : List Char) : List Char → List (List Char) → Prop
  | nil : Leads m [] []
  | skip {c : Char} {s : List Char} {files : List (List Char)} (other : c ≠ '/')
      (rest : Leads m s files) : Leads m (c :: s) files
  | address {gap s : List Char} {files : List (List Char)} (free : '/' ∉ gap) (closed : '$' ∈ gap)
      (rest : Leads m s files) : Leads m (['/', '/'] ++ (gap ++ s)) files
  | path {file gap s : List Char} {files : List (List Char)} (oneLine : '\n' ∉ file)
      (free : '/' ∉ file ++ '\n' :: gap) (closed : '$' ∈ gap) (rest : Leads m s files) :
    Leads m (slashed m ++ (file ++ '\n' :: gap ++ s)) (file :: files)

theorem Leads.append {files files' : List (List Char)} (h : Leads m s files)
    (h' : Leads m t files') : Leads m (s ++ t) (files ++ files') := by
  induction h with
  | nil => exact h'
  | skip other _ ih => exact .skip other ih
  | address free closed _ ih =>
    rw [List.append_assoc, List.append_assoc]
    exact .address free closed ih
  | path oneLine free closed _ ih =>
    rw [List.append_assoc, List.append_assoc]
    exact .path oneLine free closed ih

theorem Leads.of_notMem (h : '/' ∉ s) : Leads m s [] := by
  induction s with
  | nil => exact .nil
  | cons c rest ih =>
    exact .skip (Ne.symm (List.ne_of_not_mem_cons h)) (ih (List.not_mem_of_not_mem_cons h))

/-- Whether a file follows the path of a directory somewhere in a text, up to the end of the
line. -/
def Follows (m s file : List Char) : Prop :=
  '\n' ∉ file ∧ ∃ before after, s = before ++ (slashed m ++ (file ++ after)) ∧
    (after = [] ∨ ∃ rest, after = '\n' :: rest)

theorem follows_cons (other : c ≠ '/') {file : List Char} :
    Follows m (c :: s) file ↔ Follows m s file := by
  unfold Follows
  refine and_congr_right fun _ => ?_
  constructor
  · rintro ⟨before, after, hs, hafter⟩
    cases before with
    | nil => exact absurd (List.cons.inj hs).1 other
    | cons a before => exact ⟨before, after, (List.cons.inj hs).2, hafter⟩
  · rintro ⟨before, after, rfl, hafter⟩
    exact ⟨c :: before, after, rfl, hafter⟩

/-- What follows the path of a directory up to the end of a line is determined. -/
theorem eq_of_append_line {file file' after rest : List Char} (hfile : '\n' ∉ file)
    (hfile' : '\n' ∉ file') (hafter : after = [] ∨ ∃ rest, after = '\n' :: rest)
    (h : file ++ after = file' ++ '\n' :: rest) : file = file' := by
  rcases hafter with rfl | ⟨rest', rfl⟩
  · rw [List.append_nil] at h
    exact absurd (h ▸ List.mem_append_right file' List.mem_cons_self) hfile
  · have hstart : file ++ ['\n'] <+: file' ++ '\n' :: rest :=
      ⟨rest', by rw [← h, List.append_assoc, List.singleton_append]⟩
    exact eq_of_before hfile hfile' hstart

/-- **A text leads to the files that follow the path of the directory in it**, and to no other. -/
theorem Leads.follows_iff (ne : m ≠ []) (clear : '$' ∉ m) {files : List (List Char)}
    (h : Leads m s files) {file : List Char} : Follows m s file ↔ file ∈ files := by
  induction h with
  | nil =>
    refine iff_of_false ?_ List.not_mem_nil
    rintro ⟨-, before, after, hs, -⟩
    simp [slashed] at hs
  | skip other _ ih => rw [follows_cons other, ih]
  | @address gap s _ free closed _ ih =>
    rw [← ih]
    unfold Follows
    refine and_congr_right fun _ => ?_
    constructor
    · rintro ⟨before, after, hs, hafter⟩
      rcases slashed_append_cases clear free closed hs.symm with ⟨y', hleft, -⟩ | ⟨x', hright, -⟩
      · -- There is something between the slashes of the path.
        have hlength := congrArg List.length hleft
        have hpos := List.length_pos_iff.2 ne
        simp [slashed] at hlength
        omega
      · exact ⟨x', after, hright, hafter⟩
    · rintro ⟨before, after, rfl, hafter⟩
      exact ⟨['/', '/'] ++ (gap ++ before), after, by simp only [List.append_assoc], hafter⟩
  | @path file' gap s _ oneLine free closed _ ih =>
    rw [List.mem_cons, ← ih]
    have hclosed : '$' ∈ file' ++ '\n' :: gap :=
      List.mem_append_right _ (List.mem_cons_of_mem _ closed)
    constructor
    · rintro ⟨hline, before, after, hs, hafter⟩
      rcases slashed_append_cases clear free hclosed hs.symm with
        ⟨y', hleft, hy⟩ | ⟨x', hright, -⟩
      · obtain ⟨-, rfl⟩ : before = [] ∧ y' = [] := by
          have hlength := congrArg List.length hleft
          simp only [List.length_append] at hlength
          rw [← List.length_eq_zero_iff, ← List.length_eq_zero_iff]
          omega
        rw [List.nil_append, List.append_assoc] at hy
        exact .inl (eq_of_append_line hline oneLine hafter hy)
      · exact .inr ⟨hline, x', after, hright, hafter⟩
    · rintro (rfl | ⟨hline, before, after, rfl, hafter⟩)
      · exact ⟨oneLine, [], '\n' :: gap ++ s, by simp, .inr ⟨_, rfl⟩⟩
      · refine ⟨hline, slashed m ++ (file' ++ '\n' :: gap ++ before), after, ?_, hafter⟩
        simp only [List.append_assoc]

end Lists

end ServiceBinding.Binding
