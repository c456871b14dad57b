import Mathlib.Data.List.Infix
import ServiceBinding.Text.Search

/-!
Splitting at a separator. A text is cut where the separator comes first (`cut?_eq_some`), and no
piece holds the separator (`not_infix_of_mem_splitPieces`). So a text put together from parts that
do not hold it is taken apart into these parts again, unless the separator overlaps itself: then one
that is put behind a text may be found earlier, across the end of the text (`Overlaps`,
`splitPieces_append`).
-/
namespace ServiceBinding.Text

section Lists
variable {α : Type} {a : α} {sep s t before rest piece : List α}

/-! ### Overlaps -/

/-- Whether an ending of a list, neither empty nor all of it, is a beginning of it too. -/
def Overlaps (l : List α) : Prop := ∃ part, part ≠ [] ∧ part ≠ l ∧ part <+: l ∧ part <:+ l

theorem not_overlaps_singleton (a : α) : ¬ Overlaps [a] := by
  rintro ⟨part, hne, hall, hstart, _⟩
  have := hstart.length_le
  have := List.length_pos_iff.2 hne
  exact hall (hstart.eq_of_length (by simp only [List.length_singleton] at *; omega))

/-- Behind a list that does not hold it, a separator that does not overlap itself is nowhere
before its last element. -/
theorem not_infix_append_dropLast (clear : ¬ Overlaps sep) (h : ¬ sep <:+: s) :
    ¬ sep <:+: s ++ sep.dropLast := by
  rintro ⟨x, y, hwhole⟩
  have ne : sep ≠ [] := fun he => h (he ▸ List.nil_infix)
  have longer : ∀ z z' : List α, sep.dropLast ≠ z ++ (sep ++ z') := fun z z' he => by
    have := congrArg List.length he
    have := List.length_pos_iff.2 ne
    simp only [List.length_append, List.length_dropLast] at *
    omega
  rw [List.append_assoc] at hwhole
  obtain ⟨u, rfl, hend⟩ | ⟨u, rfl, hend⟩ := List.append_eq_append_iff.1 hwhole
  · obtain ⟨t, rfl, rfl⟩ | ⟨t, hsep, hrest⟩ := List.append_eq_append_iff.1 hend
    · exact h ⟨x, t, List.append_assoc x sep t⟩
    -- What the separator has behind the list begins it and ends it.
    · refine clear ⟨t, ?_, ?_, ?_, ⟨u, hsep.symm⟩⟩
      · rintro rfl
        rw [List.append_nil] at hsep
        exact h ⟨x, [], by rw [hsep, List.append_nil]⟩
      · rintro rfl
        exact longer [] y hrest
      · exact (List.prefix_append t y).trans (hrest ▸ List.dropLast_prefix sep)
  · exact longer u y hend

/-- Behind one element or more, whether a separator begins the whole is decided before its last
element. -/
theorem prefix_append_iff (before rest : List α) :
    sep <+: a :: before ++ sep ++ rest ↔ sep <+: a :: before ++ sep.dropLast := by
  have shorter : a :: before ++ sep.dropLast <+: a :: before ++ sep ++ rest := by
    rw [List.append_assoc, List.prefix_append_right_inj]
    exact (List.dropLast_prefix sep).trans (List.prefix_append _ _)
  refine ⟨fun h => List.prefix_of_prefix_length_le h shorter ?_, fun h => h.trans shorter⟩
  simp only [List.length_append, List.length_cons, List.length_dropLast]
  omega

variable [BEq α]

theorem splitPieces_ne_nil : splitPieces a sep s ≠ [] := by
  rw [splitPieces]
  split <;> exact List.cons_ne_nil _ _

theorem splitPieces_of_uncut (h : cut? (a :: sep) s = none) : splitPieces a sep s = [s] := by
  rw [splitPieces]
  split
  · rfl
  · next hcut => cases h.symm.trans hcut

theorem splitPieces_of_cut (h : cut? (a :: sep) s = some (before, rest)) :
    splitPieces a sep s = before :: splitPieces a sep rest := by
  rw [splitPieces]
  split
  · next hcut => cases h.symm.trans hcut
  · next hcut =>
    cases h.symm.trans hcut
    rfl

variable [LawfulBEq α]

/-! ### The first occurrence -/

theorem after?_eq_some : after? sep s = some rest ↔ s = sep ++ rest := by
  induction sep generalizing s with
  | nil => exact Option.some_inj
  | cons a sep ih =>
    cases s with
    | nil => simp [after?]
    | cons b s =>
      rw [after?, List.cons_append, List.cons.injEq]
      by_cases h : a = b
      · rw [if_pos (beq_iff_eq.2 h), ih, and_iff_right h.symm]
      · rw [if_neg (mt beq_iff_eq.1 h)]
        constructor
        · rintro ⟨⟩
        · rintro ⟨he, _⟩
          exact absurd he.symm h

theorem after?_eq_none : after? sep s = none ↔ ¬ sep <+: s := by
  rw [Option.eq_none_iff_forall_ne_some]
  constructor
  · rintro h ⟨rest, rfl⟩
    exact h rest (after?_eq_some.2 rfl)
  · intro h rest hrest
    exact h ⟨rest, (after?_eq_some.1 hrest).symm⟩

theorem cut?_eq_none : cut? sep s = none ↔ ¬ sep <:+: s := by
  induction s with
  | nil => simp [cut?]
  | cons a s ih =>
    rw [cut?, List.infix_cons_iff, not_or, ← after?_eq_none, ← ih]
    cases after? sep (a :: s) <;> simp

/-- A list is cut at the first occurrence of the separator: no other one ends before it does. -/
theorem cut?_eq_some (ne : sep ≠ []) :
    cut? sep s = some (before, rest) ↔
      s = before ++ sep ++ rest ∧ ¬ sep <:+: before ++ sep.dropLast := by
  induction s generalizing before with
  | nil => simp [cut?, ne]
  | cons a s ih =>
    rw [cut?]
    cases before with
    | nil =>
      have short : ¬ sep <:+: [] ++ sep.dropLast := fun h => by
        have := h.length_le
        have := List.length_pos_iff.2 ne
        simp only [List.nil_append, List.length_dropLast] at *
        omega
      rw [and_iff_left short, List.nil_append, ← after?_eq_some]
      cases after? sep (a :: s) <;> simp
    | cons b before =>
      rw [List.cons_append, List.cons_append, List.cons_append, List.infix_cons_iff, not_or]
      cases ha : after? sep (a :: s) with
      | some found =>
        have begins : sep <+: a :: s := ⟨found, (after?_eq_some.1 ha).symm⟩
        constructor
        · rintro ⟨⟩
        · rintro ⟨he, hnot, _⟩
          rw [he] at begins
          exact absurd ((prefix_append_iff _ _).1 begins) hnot
      | none =>
        dsimp only
        rw [Option.map_eq_some_iff]
        constructor
        · rintro ⟨⟨before', rest'⟩, hcut, he⟩
          cases he
          obtain ⟨rfl, hfirst⟩ := ih.1 hcut
          refine ⟨rfl, fun h => after?_eq_none.1 ha ?_, hfirst⟩
          exact (prefix_append_iff _ _).2 h
        · rintro ⟨he, _, hfirst⟩
          cases he
          exact ⟨(before, rest), ih.2 ⟨rfl, hfirst⟩, rfl⟩

/-! ### Pieces -/

/-- The pieces of a list do not hold the separator. -/
theorem not_infix_of_mem_splitPieces (h : piece ∈ splitPieces a sep s) :
    ¬ a :: sep <:+: piece := by
  fun_induction splitPieces a sep s with
  | case1 s hcut =>
    rw [List.mem_singleton.1 h]
    exact cut?_eq_none.1 hcut
  | case2 s before rest hcut shorter ih =>
    rcases List.mem_cons.1 h with rfl | h
    · have hfirst := ((cut?_eq_some (List.cons_ne_nil a sep)).1 hcut).2
      exact fun hi => hfirst (hi.trans (List.prefix_append _ _).isInfix)
    · exact ih h

/-- A list is a piece of itself just if it does not hold the separator. -/
theorem mem_splitPieces_self : s ∈ splitPieces a sep s ↔ ¬ a :: sep <:+: s := by
  refine ⟨not_infix_of_mem_splitPieces, fun h => ?_⟩
  rw [splitPieces_of_uncut (cut?_eq_none.2 h)]
  exact List.mem_singleton_self s

/-- Around a separator that does not overlap itself, both sides are split by themselves. -/
theorem splitPieces_append (clear : ¬ Overlaps (a :: sep)) :
    splitPieces a sep (s ++ a :: sep ++ t) = splitPieces a sep s ++ splitPieces a sep t := by
  fun_induction splitPieces a sep s with
  | case1 s hcut =>
    refine splitPieces_of_cut ((cut?_eq_some (List.cons_ne_nil a sep)).2 ⟨rfl, ?_⟩)
    exact not_infix_append_dropLast clear (cut?_eq_none.1 hcut)
  | case2 s before rest hcut shorter ih =>
    obtain ⟨rfl, hfirst⟩ := (cut?_eq_some (List.cons_ne_nil a sep)).1 hcut
    rw [List.cons_append, ← ih]
    refine splitPieces_of_cut ((cut?_eq_some (List.cons_ne_nil a sep)).2 ⟨?_, hfirst⟩)
    simp only [List.append_assoc]

theorem splitPieces_of_notMem (h : a ∉ s) : splitPieces a [] s = [s] :=
  splitPieces_of_uncut (cut?_eq_none.2 (mt (List.singleton_infix_iff a s).1 h))

end Lists

/-! ### Texts -/

/-- A text that is put behind a separator is a piece of the whole, if it has not been one before,
just if it does not hold the separator. -/
theorem mem_split_append {sep s t : String} (ne : sep ≠ "") (clear : ¬ Overlaps sep.toList)
    (new : t ∉ split s sep) : t ∈ split (s ++ sep ++ t) sep ↔ ¬ sep.toList <:+: t.toList := by
  cases hsep : sep.toList with
  | nil => exact absurd (String.toList_eq_nil_iff.1 hsep) ne
  | cons a rest =>
    have hsplit : ∀ u : String, t ∈ split u sep ↔ t.toList ∈ splitPieces a rest u.toList := by
      intro u
      unfold split
      rw [hsep]
      dsimp only
      rw [List.mem_map]
      constructor
      · rintro ⟨piece, hpiece, rfl⟩
        rwa [String.toList_ofList]
      · exact fun h => ⟨t.toList, h, String.ofList_toList⟩
    rw [hsplit] at new ⊢
    rw [String.toList_append, String.toList_append, hsep, splitPieces_append (hsep ▸ clear),
      List.mem_append, or_iff_right new, mem_splitPieces_self]

section Characters
variable {c : Char} {s t : String}

theorem split_of_notMem (h : c ∉ s.toList) : split s (String.singleton c) = [s] := by
  unfold split
  rw [String.toList_singleton]
  dsimp only
  rw [splitPieces_of_notMem h, List.map_singleton, String.ofList_toList]

/-- Around a character, both sides are split by themselves. -/
theorem split_around (s t : String) (c : Char) :
    split (s ++ String.singleton c ++ t) (String.singleton c) =
      split s (String.singleton c) ++ split t (String.singleton c) := by
  unfold split
  rw [String.toList_singleton]
  dsimp only
  rw [String.toList_append, String.toList_append, String.toList_singleton,
    splitPieces_append (not_overlaps_singleton c), List.map_append]

/-- A text in two parts is split into them at a character that neither holds. -/
theorem split_append (hs : c ∉ s.toList) (ht : c ∉ t.toList) :
    split (s ++ String.singleton c ++ t) (String.singleton c) = [s, t] := by
  rw [split_around, split_of_notMem hs, split_of_notMem ht]
  rfl

/-- Texts that are put together around a character that none of them holds are taken apart there
again. -/
theorem split_intercalate {l : List String} (ne : l ≠ []) (plain : ∀ t ∈ l, c ∉ t.toList) :
    split ((String.singleton c).intercalate l) (String.singleton c) = l := by
  induction l with
  | nil => exact absurd rfl ne
  | cons t rest ih =>
    obtain ⟨ht, hrest⟩ := List.forall_mem_cons.1 plain
    cases rest with
    | nil => rw [String.intercalate_singleton, split_of_notMem ht]
    | cons u rest =>
      rw [String.intercalate_cons_cons, split_around, split_of_notMem ht,
        ih (List.cons_ne_nil u rest) hrest, List.singleton_append]

end Characters

/-- A text is cut at a character that its first part does not hold. -/
theorem cutAt?_append {c : Char} {s : String} (hs : c ∉ s.toList) (t : String) :
    cutAt? c (s ++ String.singleton c ++ t) = some (s, t) := by
  have hcut : cut? [c] (s.toList ++ [c] ++ t.toList) = some (s.toList, t.toList) := by
    refine (cut?_eq_some (List.cons_ne_nil c [])).2 ⟨rfl, ?_⟩
    rw [List.dropLast_singleton, List.append_nil]
    exact mt (List.singleton_infix_iff c s.toList).1 hs
  unfold cutAt?
  rw [String.toList_append, String.toList_append, String.toList_singleton, hcut]
  simp

theorem endsWith_eq_true {s ending : String} :
    endsWith s ending = true ↔ ending.toList <:+ s.toList := by
  rw [endsWith, Option.isSome_iff_ne_none, Ne, after?_eq_none, not_not, List.reverse_prefix]

end ServiceBinding.Text
