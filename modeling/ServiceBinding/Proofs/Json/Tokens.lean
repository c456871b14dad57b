import ServiceBinding.Json.Reader
import ServiceBinding.Json.Writer
import ServiceBinding.Proofs.Bytes
import ServiceBinding.Proofs.Text.Numeral

/-!
Strings and integers are read back from what is written (`string?_written`, `number?_toDigits`).
A string says itself where it ends; a number ends where no digit, point or exponent follows, which
is so in front of a comma or a closing bracket (`Ends`).
-/
namespace ServiceBinding.Json.Reader

/-! ### Strings -/

theorem escape?_control {c : Char} (h : c.toNat < 0x20) (rest : Rest) :
    escape? ('u' :: '0' :: '0' :: Bytes.hexDigit (c.toNat / 16) ::
      Bytes.hexDigit (c.toNat % 16) :: rest) = some (c, rest) := by
  have hzero : Bytes.hexDigit? '0' = some 0 := by decide
  have hhigh := Bytes.hexDigit?_hexDigit (n := c.toNat / 16) (by omega)
  have hlow := Bytes.hexDigit?_hexDigit (n := c.toNat % 16) (by omega)
  have hvalue : c.toNat / 16 * 16 + c.toNat % 16 = c.toNat := Nat.div_add_mod' _ _
  have hnotLow : ¬ (0xDC00 ≤ c.toNat ∧ c.toNat < 0xE000) := by omega
  have hnotHigh : ¬ (0xD800 ≤ c.toNat ∧ c.toNat < 0xDC00) := by omega
  simp [escape?, hex4?, hzero, hhigh, hlow, hvalue, hnotLow, hnotHigh]

/-- Every character of a string is read back, whether it is written as it is or escaped. -/
theorem string?_writeChar (fuel : Nat) (read : List Char) (c : Char) (rest : Rest) :
    string? (fuel + 1) read (writeChar c ++ rest) = string? fuel (c :: read) rest := by
  unfold writeChar
  split
  all_goals try rfl
  next hquote hbackslash _ _ _ _ _ =>
    split
    · next hcontrol =>
      have hread := escape?_control hcontrol rest
      simp only [List.cons_append, List.nil_append, string?, hread]
      rfl
    · next hplain =>
      rw [List.singleton_append, string?]
      · exact if_neg hplain
      · exact hquote
      · exact hbackslash

theorem string?_written {l : List Char} {fuel : Nat} (read : List Char) (rest : Rest)
    (h : (l.flatMap writeChar).length < fuel) :
    string? fuel read (l.flatMap writeChar ++ '"' :: rest) =
      some (String.ofList (read.reverse ++ l), rest) := by
  induction l generalizing read fuel with
  | nil =>
    obtain ⟨fuel, rfl⟩ := Nat.exists_eq_add_one.2 h
    rw [List.append_nil]
    rfl
  | cons c more ih =>
    have hpos : 0 < (writeChar c).length := by
      unfold writeChar
      split <;> (try split) <;> exact Nat.succ_pos _
    rw [List.flatMap_cons, List.length_append] at h
    obtain ⟨fuel, rfl⟩ := Nat.exists_eq_add_one.2 (Nat.zero_lt_of_lt h)
    rw [List.flatMap_cons, List.append_assoc, string?_writeChar, ih _ (by omega),
      List.reverse_cons, List.append_assoc, List.singleton_append]

/-! ### Integers -/

/-- Whether a text goes on with what cannot be part of a number. -/
def Ends (rest : Rest) : Prop := ∀ c ∈ rest.head?, c = ',' ∨ c = ']' ∨ c = '}'

theorem takeDigits_append {digits : List Char} (each : ∀ c ∈ digits, c.isDigit = true)
    {rest : Rest} (ends : Ends rest) :
    takeDigits (digits ++ rest) = (digits.map fun c => c.toNat - '0'.toNat, rest) := by
  have hrest : ∀ c ∈ rest.head?, (Text.digit? c).isSome = false := by
    intro c hc
    rcases ends c hc with rfl | rfl | rfl <;> decide
  induction digits with
  | nil =>
    cases rest with
    | nil => rfl
    | cons c rest =>
      have hc := hrest c rfl
      simp [takeDigits, hc]
  | cons c more ih =>
    obtain ⟨hc, hmore⟩ := List.forall_mem_cons.1 each
    have hdigit := Text.digit?_of_isDigit hc
    have hsplit := ih hmore
    rw [takeDigits, Prod.mk.injEq] at hsplit
    simp [takeDigits, hdigit, hsplit.1, hsplit.2]

/-- Digits of a number of 64 bits all count. -/
theorem foldl_pushInteger (negative : Bool) {digits : List Char} {n : Nat}
    (h : Nat.ofDigitChars 10 digits n < UInt64.size) :
    (digits.map fun c => c.toNat - '0'.toNat).foldl Scan.pushInteger ⟨negative, n, 0, false⟩ =
      ⟨negative, Nat.ofDigitChars 10 digits n, 0, false⟩ := by
  induction digits generalizing n with
  | nil => rfl
  | cons c more ih =>
    rw [Nat.ofDigitChars_cons] at h
    have hfits : n * 10 + (c.toNat - '0'.toNat) < UInt64.size := by
      rw [Nat.mul_comm]
      exact Nat.lt_of_le_of_lt (Text.le_ofDigitChars more _) h
    have hpush : Scan.pushInteger ⟨negative, n, 0, false⟩ (c.toNat - '0'.toNat) =
        ⟨negative, 10 * n + (c.toNat - '0'.toNat), 0, false⟩ := by
      rw [Scan.pushInteger, if_pos (by simpa [Scan.fits] using hfits), Nat.mul_comm]
    rw [List.map_cons, List.foldl_cons, hpush, ih h, Nat.ofDigitChars_cons]

theorem number?_toDigits (negative : Bool) {n : Nat} (h : n < UInt64.size) {rest : Rest}
    (ends : Ends rest) :
    number? negative (Nat.toDigits 10 n ++ rest) =
      (Scan.toInteger? ⟨negative, n, 0, false⟩).map (·, rest) := by
  have hvalue : Nat.ofDigitChars 10 (Nat.toDigits 10 n) 0 = n := Nat.ofDigitChars_ten_toDigits
  have hscan := foldl_pushInteger negative (hvalue.symm ▸ h)
  obtain ⟨c, more, hdigits, -, hleading⟩ := Text.leading_toDigits n
  rw [number?, takeDigits_append (fun _ => Text.isDigit_of_mem_toDigits) ends]
  rw [hvalue, hdigits, List.map_cons] at hscan
  rw [hdigits, List.map_cons]
  dsimp only
  rw [if_neg (by simpa using hleading), hscan]
  cases rest with
  | nil => simp [Option.map_eq_bind]
  | cons next rest => obtain rfl | rfl | rfl := ends next rfl <;> simp [Option.map_eq_bind]

theorem toInteger?_negative {n : Nat} (pos : 0 < n) (h : n ≤ Int64.minValue.toInt.natAbs) :
    Scan.toInteger? ⟨true, n, 0, false⟩ = some (.int (-n)) := by
  unfold Scan.toInteger?
  rw [if_neg Bool.false_ne_true, if_neg (by simp)]
  exact if_neg (not_or.2 ⟨Nat.ne_of_gt pos, Nat.not_lt.2 h⟩)

end ServiceBinding.Json.Reader
