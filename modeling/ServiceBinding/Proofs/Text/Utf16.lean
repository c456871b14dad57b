import ServiceBinding.Proofs.Bytes
import ServiceBinding.Text.Utf16

/-!
Two texts with the same octets in big-endian UTF-16 are the same (`utf16_injective`). The first
unit of a character tells whether a second one follows, and no unit takes more than two octets, so
that at both levels the pieces of a concatenation can be told apart.
-/
namespace ServiceBinding.Text
variable {α β : Type}

/-- Pieces that are recognised with anything behind them can be told apart in a row of them. -/
theorem flatMap_injOn {write : α → List β} {P : α → Prop} (nonempty : ∀ a, P a → write a ≠ [])
    (apart : ∀ {a a' u u'}, P a → P a' → write a ++ u = write a' ++ u' → a = a' ∧ u = u')
    {l l' : List α} (hl : ∀ a ∈ l, P a) (hl' : ∀ a ∈ l', P a)
    (h : l.flatMap write = l'.flatMap write) : l = l' := by
  induction l generalizing l' with
  | nil =>
    cases l' with
    | nil => rfl
    | cons a' rest' =>
      have hnil : write a' = [] := (List.append_eq_nil_iff.1 h.symm).1
      exact absurd hnil (nonempty a' (hl' a' List.mem_cons_self))
  | cons a rest ih =>
    cases l' with
    | nil =>
      have hnil : write a = [] := (List.append_eq_nil_iff.1 h).1
      exact absurd hnil (nonempty a (hl a List.mem_cons_self))
    | cons a' rest' =>
      rw [List.forall_mem_cons] at hl hl'
      rw [List.flatMap_cons, List.flatMap_cons] at h
      obtain ⟨rfl, hrest⟩ := apart hl.1 hl'.1 h
      rw [ih hl.2 hl'.2 hrest]

/-- A character is no surrogate and has at most 21 bits. -/
theorem toNat_cases (c : Char) :
    c.toNat < 0xD800 ∨ 0xDFFF < c.toNat ∧ c.toNat < 0x110000 := c.valid

theorem units16_ne_nil (c : Char) : units16 c ≠ [] := by
  unfold units16
  dsimp only
  split <;> exact List.cons_ne_nil _ _

theorem lt_of_mem_units16 {c : Char} {n : Nat} (h : n ∈ units16 c) : n < 256 ^ 2 := by
  have hc := toNat_cases c
  unfold units16 at h
  dsimp only at h
  split at h
  · rw [List.mem_singleton] at h
    omega
  · rw [List.mem_pair] at h
    omega

/-- The units of a character are recognised with anything behind them: only a high surrogate is
followed by another unit, and no character of the basic plane is one. -/
theorem units16_append_inj {c c' : Char} {u u' : List Nat}
    (h : units16 c ++ u = units16 c' ++ u') : c = c' ∧ u = u' := by
  have hc := toNat_cases c
  have hc' := toNat_cases c'
  unfold units16 at h
  dsimp only at h
  suffices hn : c.toNat = c'.toNat ∧ u = u' from ⟨Char.toNat_inj.1 hn.1, hn.2⟩
  split at h <;> split at h <;>
    simp only [List.cons_append, List.nil_append, List.cons.injEq] at h
  · exact h
  · omega
  · omega
  · exact ⟨by omega, h.2.2⟩

theorem word_append_inj {width n n' : Nat} {b b' : Bytes} (hn : n < 256 ^ width)
    (hn' : n' < 256 ^ width) (h : Bytes.word width n ++ b = Bytes.word width n' ++ b') :
    n = n' ∧ b = b' := by
  obtain ⟨hword, hb⟩ := List.append_inj h (by rw [Bytes.length_word, Bytes.length_word])
  refine ⟨?_, hb⟩
  rw [← Bytes.value_word hn, ← Bytes.value_word hn', hword]

/-- The octets of a text determine it. -/
theorem utf16_injective {s t : String} (h : utf16 s = utf16 t) : s = t := by
  have small : ∀ s : String, ∀ n ∈ s.toList.flatMap units16, n < 256 ^ 2 := by
    intro s n hn
    obtain ⟨c, -, hc⟩ := List.mem_flatMap.1 hn
    exact lt_of_mem_units16 hc
  have hunits : s.toList.flatMap units16 = t.toList.flatMap units16 :=
    flatMap_injOn (fun n _ => by rw [Bytes.word]; exact List.cons_ne_nil _ _)
      word_append_inj (small s) (small t) h
  have hchars : s.toList = t.toList :=
    flatMap_injOn (P := fun _ => True) (fun c _ => units16_ne_nil c)
      (fun _ _ => units16_append_inj) (fun _ _ => trivial) (fun _ _ => trivial) hunits
  exact String.toList_inj.1 hchars

end ServiceBinding.Text
