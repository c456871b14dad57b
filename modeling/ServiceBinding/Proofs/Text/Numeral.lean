import ServiceBinding.Text.Numeral

/-!
Reading numerals. What is read is an unsigned decimal, with a plus sign or without, that fits the
word (`numeral?_eq_some_iff`); so the numeral that a number is written as is read as that number.
-/
namespace ServiceBinding.Text

/-- Whether a text is an unsigned decimal of some value below a bound. -/
def IsNumeral (bound : Nat) (s : List Char) (n : Nat) : Prop :=
  ∃ digits, digits ≠ [] ∧ (∀ c ∈ digits, c.isDigit = true) ∧ (s = digits ∨ s = '+' :: digits) ∧
    Nat.ofDigitChars 10 digits 0 = n ∧ n < bound

theorem digit?_of_isDigit {c : Char} (h : c.isDigit = true) :
    digit? c = some (c.toNat - '0'.toNat) := by
  unfold Char.isDigit at h
  rw [Bool.and_eq_true, decide_eq_true_eq, decide_eq_true_eq] at h
  exact if_pos h

theorem isDigit_of_digit? {c : Char} {d : Nat} (h : digit? c = some d) : c.isDigit = true := by
  unfold digit? at h
  split at h
  · next hc =>
    unfold Char.isDigit
    rw [Bool.and_eq_true, decide_eq_true_eq, decide_eq_true_eq]
    exact hc
  · cases h

/-- Digits are read from the first one on, each making ten times as much of those before it. -/
theorem digitsFrom?_eq {l : List Char} (digits : ∀ c ∈ l, c.isDigit = true) (n : Nat) :
    digitsFrom? n l = some (Nat.ofDigitChars 10 l n) := by
  induction l generalizing n with
  | nil => rfl
  | cons c rest ih =>
    obtain ⟨hc, hrest⟩ := List.forall_mem_cons.1 digits
    rw [digitsFrom?, digit?_of_isDigit hc, Nat.ofDigitChars_cons, Nat.mul_comm 10 n]
    exact ih hrest _

theorem digits_of_digitsFrom? {l : List Char} {n m : Nat} (h : digitsFrom? n l = some m) :
    ∀ c ∈ l, c.isDigit = true := by
  induction l generalizing n with
  | nil => exact List.forall_mem_nil _
  | cons c rest ih =>
    obtain ⟨d, hd, h⟩ := Option.bind_eq_some_iff.1 h
    exact List.forall_mem_cons.2 ⟨isDigit_of_digit? hd, ih h⟩

/-- A text is read as a number just if it is a numeral of it. -/
theorem numeral?_eq_some_iff {bound n : Nat} {s : List Char} :
    numeral? bound s = some n ↔ IsNumeral bound s n := by
  have read (digits : List Char) :
      (if digits.isEmpty then none else (digitsFrom? 0 digits).filter (· < bound)) = some n ↔
        digits ≠ [] ∧ (∀ c ∈ digits, c.isDigit = true) ∧ Nat.ofDigitChars 10 digits 0 = n ∧
          n < bound := by
    cases digits with
    | nil => simp
    | cons c rest =>
      rw [if_neg (by simp), Option.filter_eq_some_iff, decide_eq_true_eq,
        and_iff_right (List.cons_ne_nil c rest), ← and_assoc]
      refine and_congr_left fun _ => ⟨fun h => ?_, fun ⟨digits, h⟩ => ?_⟩
      · have digits := digits_of_digitsFrom? h
        rw [digitsFrom?_eq digits] at h
        exact ⟨digits, Option.some.inj h⟩
      · rw [digitsFrom?_eq digits, h]
  unfold numeral?
  rw [read]
  constructor
  · rintro ⟨hne, hdigits, hvalue, hlt⟩
    refine ⟨_, hne, hdigits, ?_, hvalue, hlt⟩
    split
    · exact .inr rfl
    · exact .inl rfl
  · rintro ⟨digits, hne, hdigits, rfl | rfl, hvalue, hlt⟩
    · split
      · exact absurd (hdigits '+' List.mem_cons_self) (by decide)
      · exact ⟨hne, hdigits, hvalue, hlt⟩
    · exact ⟨hne, hdigits, hvalue, hlt⟩

/-! ### Numerals as they are written -/

theorem isDigit_of_mem_toDigits {n : Nat} {c : Char} (h : c ∈ Nat.toDigits 10 n) :
    c.isDigit = true :=
  Nat.isDigit_of_mem_toDigits (by decide) (by decide) h

theorem le_ofDigitChars (digits : List Char) (n : Nat) : n ≤ Nat.ofDigitChars 10 digits n := by
  induction digits generalizing n with
  | nil => exact Nat.le_refl n
  | cons c more ih =>
    rw [Nat.ofDigitChars_cons]
    exact Nat.le_trans (by omega) (ih _)

/-- A numeral has no leading zero. -/
theorem head_toDigits {n : Nat} (h : 0 < n) :
    ∃ c more, Nat.toDigits 10 n = c :: more ∧ c ≠ '0' := by
  induction n using Nat.strongRecOn with
  | _ n ih =>
    by_cases hn : n < 10
    · rw [Nat.toDigits_of_lt_base hn]
      exact ⟨_, [], rfl, fun hzero => Nat.ne_of_gt h (Nat.digitChar_eq_zero.1 hzero)⟩
    · obtain ⟨c, more, hdigits, hc⟩ := ih (n / 10) (by omega) (by omega)
      rw [Nat.toDigits_of_base_le (by decide) (by omega), hdigits]
      exact ⟨c, _, List.cons_append, hc⟩

/-- A numeral begins with a digit that is no zero, or that no other digit follows. -/
theorem leading_toDigits (n : Nat) :
    ∃ c more, Nat.toDigits 10 n = c :: more ∧ c.isDigit = true ∧
      ¬ (c.toNat - '0'.toNat = 0 ∧ more ≠ []) := by
  obtain rfl | hpos := Nat.eq_zero_or_pos n
  · exact ⟨'0', [], rfl, rfl, fun h => h.2 rfl⟩
  · obtain ⟨c, more, hdigits, hc⟩ := head_toDigits hpos
    have hdigit : c.isDigit = true := isDigit_of_mem_toDigits (hdigits ▸ List.mem_cons_self)
    refine ⟨c, more, hdigits, hdigit, fun h => hc ?_⟩
    have hbounds := Char.isDigit_iff_toNat.1 hdigit
    exact Char.toNat_inj.1 (by grind)

theorem numeral?_toDigits {bound n : Nat} (h : n < bound) :
    numeral? bound (Nat.toDigits 10 n) = some n :=
  numeral?_eq_some_iff.2 ⟨_, by simp, fun _ => isDigit_of_mem_toDigits, .inl rfl,
    Nat.ofDigitChars_ten_toDigits, h⟩

/-- The numeral of a word is read as the word. -/
theorem word64?_toString {n : Nat} (h : n < UInt64.size) : word64? (toString n) = some n := by
  rw [word64?, Nat.toString_eq_ofList_toDigits, String.toList_ofList]
  exact numeral?_toDigits h

theorem toString_injective {m n : Nat} (h : toString m = toString n) : m = n := by
  rw [Nat.toString_eq_ofList_toDigits, Nat.toString_eq_ofList_toDigits, String.ofList_inj] at h
  rw [← Nat.ofDigitChars_ten_toDigits (n := m), h, Nat.ofDigitChars_ten_toDigits]

end ServiceBinding.Text
