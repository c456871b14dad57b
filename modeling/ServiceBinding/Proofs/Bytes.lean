import ServiceBinding.Bytes
import Mathlib.Data.List.Basic
import Mathlib.Tactic.Ring

/-!
Readings of octet strings undo their writings: words within their width (`value_word`), texts
(`toText?_ofText`) and what is hidden under a stream (`xor_xor`).
-/
namespace ServiceBinding.Bytes

/-! ### Words -/

theorem value_append (a b : Bytes) : value (a ++ b) = value a * 256 ^ b.length + value b := by
  unfold value
  rw [List.foldl_append]
  generalize a.foldl (fun n octet => n * 256 + octet.toNat) 0 = n
  induction b generalizing n with
  | nil => simp
  | cons x rest ih =>
    rw [List.foldl_cons, List.foldl_cons, ih, ih (0 * 256 + x.toNat), List.length_cons, pow_succ]
    ring

theorem value_cons (x : UInt8) (b : Bytes) :
    value (x :: b) = x.toNat * 256 ^ b.length + value b := by
  rw [← List.singleton_append, value_append]
  simp [value]

/-- A number below `256 ^ width` is the value of its word. -/
theorem value_word_mod (width n : Nat) : value (word width n) = n % 256 ^ width := by
  induction width with
  | zero => simp [word, value, Nat.mod_one]
  | succ width ih =>
    rw [word, value_cons, ih, length_word, pow_succ]
    show n / 256 ^ width % 256 * 256 ^ width + n % 256 ^ width = _
    rw [Nat.mod_mul, Nat.mul_comm, Nat.add_comm]

/-- What is beyond the width of a word does not show in it. -/
theorem word_add_mul (width k n : Nat) : word width (k * 256 ^ width + n) = word width n := by
  induction width generalizing k with
  | zero => rfl
  | succ width ih =>
    have hpos : 0 < 256 ^ width := Nat.pow_pos (by decide)
    have hsplit : k * 256 ^ (width + 1) + n = k * 256 * 256 ^ width + n := by
      rw [pow_succ]
      ring
    rw [word, word, hsplit, ih]
    show UInt8.ofNat ((k * 256 * 256 ^ width + n) / 256 ^ width) :: _ =
      UInt8.ofNat (n / 256 ^ width) :: _
    rw [Nat.add_comm, Nat.add_mul_div_right _ _ hpos]
    congr 1
    rw [← UInt8.toNat_inj, UInt8.toNat_ofNat', UInt8.toNat_ofNat']
    omega

theorem value_word {width n : Nat} (h : n < 256 ^ width) : value (word width n) = n := by
  rw [value_word_mod, Nat.mod_eq_of_lt h]

/-- What some octets can count. -/
theorem value_lt (b : Bytes) : value b < 256 ^ b.length := by
  induction b with
  | nil => simp [value]
  | cons x rest ih =>
    have hx : x.toNat + 1 ≤ 256 := x.toNat_lt
    calc value (x :: rest) = x.toNat * 256 ^ rest.length + value rest := value_cons x rest
      _ < (x.toNat + 1) * 256 ^ rest.length := by rw [Nat.add_mul]; omega
      _ ≤ 256 * 256 ^ rest.length := Nat.mul_le_mul_right _ hx
      _ = 256 ^ (x :: rest).length := by rw [List.length_cons, pow_succ, Nat.mul_comm]

theorem value_zero_cons (b : Bytes) : value (0 :: b) = value b := by
  rw [value_cons]
  simp

/-- Octets are the word of their value. -/
theorem word_value (b : Bytes) : word b.length (value b) = b := by
  induction b with
  | nil => rfl
  | cons x rest ih =>
    have hlt := value_lt rest
    have hrest : word rest.length (value (x :: rest)) = word rest.length (value rest) := by
      rw [value_cons, word_add_mul]
    rw [List.length_cons, word, hrest, ih, value_cons]
    show UInt8.ofNat ((x.toNat * 256 ^ rest.length + value rest) / 256 ^ rest.length) :: rest = _
    rw [Nat.add_comm, Nat.add_mul_div_right _ _ (Nat.pow_pos (by decide)), Nat.div_eq_of_lt hlt,
      Nat.zero_add, UInt8.ofNat_toNat]

/-- Leading zeros do not count. -/
theorem value_dropWhile_zero (b : Bytes) : value (b.dropWhile (· == 0)) = value b := by
  induction b with
  | nil => rfl
  | cons x rest ih =>
    by_cases hx : x = 0
    · subst hx
      rw [List.dropWhile_cons_of_pos (by rfl), ih, value_zero_cons]
    · rw [List.dropWhile_cons_of_neg (by simpa using hx)]

/-! ### Texts -/

theorem toText?_ofText (s : String) : toText? (ofText s) = some s := by
  have hvalid : s.toUTF8.IsValidUTF8 := s.isValidUTF8
  unfold toText? ofText
  simp only [String.fromUTF8?, String.toUTF8_eq_toByteArray, Array.toArray_toList,
    Option.dite_none_right_eq_some, Option.some.injEq]
  exact ⟨hvalid, rfl⟩

/-- Octets that are read as a text are those of the text. -/
theorem ofText_of_toText? {b : Bytes} {s : String} (h : toText? b = some s) : ofText s = b := by
  unfold toText? String.fromUTF8? at h
  rw [Option.dite_none_right_eq_some] at h
  obtain ⟨_, h⟩ := h
  cases h
  rfl

theorem ofText_eq (s : String) : ofText s = s.toList.flatMap String.utf8EncodeChar := by
  obtain ⟨l, rfl⟩ : ∃ l, s = String.ofList l := ⟨s.toList, String.ofList_toList.symm⟩
  unfold ofText
  rw [String.toUTF8_eq_toByteArray, String.toByteArray_ofList, String.toList_ofList]
  simp [List.utf8Encode]

theorem ofText_append (s t : String) : ofText (s ++ t) = ofText s ++ ofText t := by
  rw [ofText_eq, ofText_eq, ofText_eq, String.toList_append, List.flatMap_append]

/-- ASCII characters are octets of their own. -/
theorem ofText_of_ascii {s : String} (ascii : ∀ c ∈ s.toList, c.toNat < 128) :
    ofText s = s.toList.map fun c => UInt8.ofNat c.toNat := by
  rw [ofText_eq, List.map_eq_flatMap]
  refine List.flatMap_congr fun c hc => ?_
  have hc : c.val.toNat ≤ 127 := Nat.le_of_lt_succ (ascii c hc)
  exact if_pos hc

/-- No character takes more than four octets. -/
theorem length_ofText_le (s : String) : (ofText s).length ≤ 4 * s.length := by
  rw [ofText_eq, List.length_flatMap, ← String.length_toList]
  induction s.toList with
  | nil => exact Nat.zero_le _
  | cons c rest ih =>
    have hc := c.utf8Size_le_four
    rw [← String.length_utf8EncodeChar] at hc
    rw [List.map_cons, List.sum_cons, List.length_cons]
    omega

/-! ### Hexadecimal -/

/-- A digit is read as the number that it is written for. -/
theorem hexDigit?_hexDigit {n : Nat} (h : n < 16) : hexDigit? (hexDigit n) = some n := by
  have hall : ∀ n : Fin 16, hexDigit? (hexDigit n) = some n.val := by decide
  exact hall ⟨n, h⟩

/-! ### Exclusive or -/

theorem xor_xor (a b : Bytes) (h : a.length ≤ b.length) : xor (xor a b) b = a := by
  unfold xor
  induction a generalizing b with
  | nil => rfl
  | cons x rest ih =>
    cases b with
    | nil => cases h
    | cons y b =>
      rw [List.zipWith_cons_cons, List.zipWith_cons_cons, ih b (by simpa using h),
        UInt8.xor_assoc, UInt8.xor_self, UInt8.xor_zero]

theorem length_xor (a b : Bytes) : (xor a b).length = min a.length b.length := by
  unfold xor
  rw [List.length_zipWith]

end ServiceBinding.Bytes
