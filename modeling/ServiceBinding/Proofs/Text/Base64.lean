import ServiceBinding.Text.Base64
import ServiceBinding.Text.Blank

/-!
Base64 is read back as it was written (`decodeChars?_encodeChars`). What is written has no white
space, no hyphen and only ASCII characters, so that it can stand between the lines of a block.
-/
namespace ServiceBinding.Text.Base64

/-! ### The alphabet -/

/-- Whether a character can stand in Base64: not blank, not a hyphen, and ASCII. -/
def IsPlain (c : Char) : Prop := isBlank c = false ∧ c ≠ '-' ∧ c.toNat < 128

instance : DecidablePred IsPlain := fun _ => instDecidableAnd

theorem symbol_spec : ∀ n < 64, value? (symbol n) = some n ∧ symbol n ≠ '=' ∧
    IsPlain (symbol n) := by
  decide

theorem value?_symbol {n : Nat} (h : n < 64) : value? (symbol n) = some n := (symbol_spec n h).1

theorem isPlain_symbol {n : Nat} (h : n < 64) : IsPlain (symbol n) := (symbol_spec n h).2.2

/-! ### Reading -/

variable {a b c d : Char} {x y z w : Nat}

theorem decodeChars?_one (ha : value? a = some x) (hb : value? b = some y) (pad : y % 16 = 0) :
    decodeChars? [a, b, '=', '='] = some [UInt8.ofNat (x * 4 + y / 16)] := by
  simp [decodeChars?, ha, hb, pad]

theorem decodeChars?_two (ha : value? a = some x) (hb : value? b = some y)
    (hc : value? c = some z) (hc' : c ≠ '=') (pad : z % 4 = 0) :
    decodeChars? [a, b, c, '='] =
      some [UInt8.ofNat (x * 4 + y / 16), UInt8.ofNat (y % 16 * 16 + z / 4)] := by
  simp [decodeChars?, ha, hb, hc, pad]

theorem decodeChars?_three {s : List Char} {tail : Bytes} (ha : value? a = some x)
    (hb : value? b = some y) (hc : value? c = some z) (hd : value? d = some w) (hd' : d ≠ '=')
    (hs : decodeChars? s = some tail) :
    decodeChars? (a :: b :: c :: d :: s) =
      some (UInt8.ofNat (x * 4 + y / 16) :: UInt8.ofNat (y % 16 * 16 + z / 4) ::
        UInt8.ofNat (z % 4 * 64 + w) :: tail) := by
  simp [decodeChars?, ha, hb, hc, hd, hd', hs]

/-- An octet from its upper six bits and its lower two, which stand before four others. -/
theorem ofNat_high (a : UInt8) {low : Nat} (h : low < 16) :
    UInt8.ofNat (a.toNat / 4 * 4 + (a.toNat % 4 * 16 + low) / 16) = a := by
  rw [show a.toNat / 4 * 4 + (a.toNat % 4 * 16 + low) / 16 = a.toNat by omega, UInt8.ofNat_toNat]

/-- An octet from its upper four bits and its lower four, which stand before two others. -/
theorem ofNat_middle (b : UInt8) {high low : Nat} (h : low < 4) :
    UInt8.ofNat ((high * 16 + b.toNat / 16) % 16 * 16 + (b.toNat % 16 * 4 + low) / 4) = b := by
  have := b.toNat_lt
  rw [show (high * 16 + b.toNat / 16) % 16 * 16 + (b.toNat % 16 * 4 + low) / 4 = b.toNat by omega,
    UInt8.ofNat_toNat]

/-- An octet from its upper two bits and its lower six. -/
theorem ofNat_low (c : UInt8) {high : Nat} :
    UInt8.ofNat ((high * 4 + c.toNat / 64) % 4 * 64 + c.toNat % 64) = c := by
  have := c.toNat_lt
  rw [show (high * 4 + c.toNat / 64) % 4 * 64 + c.toNat % 64 = c.toNat by omega,
    UInt8.ofNat_toNat]

/-- **Base64 loses nothing**: what is written is read back, whatever the octets are. -/
theorem decodeChars?_encodeChars (b : Bytes) : decodeChars? (encodeChars b) = some b := by
  induction b using encodeChars.induct with
  | case1 => rfl
  | case2 a =>
    have ha := a.toNat_lt
    rw [encodeChars, decodeChars?_one (value?_symbol (by omega)) (value?_symbol (by omega))
      (by omega)]
    exact congrArg (fun a => some [a]) (ofNat_high a (by decide : 0 < 16))
  | case3 a b =>
    have ha := a.toNat_lt
    have hb := b.toNat_lt
    rw [encodeChars, decodeChars?_two (value?_symbol (by omega)) (value?_symbol (by omega))
      (value?_symbol (by omega)) (symbol_spec _ (by omega)).2.1 (by omega),
      ofNat_high a (by omega)]
    exact congrArg (fun b => some [a, b]) (ofNat_middle b (by decide : 0 < 4))
  | case4 a b c rest ih =>
    have ha := a.toNat_lt
    have hb := b.toNat_lt
    have hc := c.toNat_lt
    rw [encodeChars, decodeChars?_three (value?_symbol (by omega)) (value?_symbol (by omega))
      (value?_symbol (by omega)) (value?_symbol (by omega)) (symbol_spec _ (by omega)).2.1 ih,
      ofNat_high a (by omega), ofNat_middle b (by omega), ofNat_low c]

/-! ### Writing -/

theorem isPlain_of_mem {b : Bytes} : ∀ c ∈ encodeChars b, IsPlain c := by
  have hpad : IsPlain '=' := by decide
  induction b using encodeChars.induct with
  | case1 => exact List.forall_mem_nil _
  | case2 a =>
    have ha := a.toNat_lt
    rw [encodeChars]
    simp only [List.forall_mem_cons]
    exact ⟨isPlain_symbol (by omega), isPlain_symbol (by omega), hpad, hpad,
      List.forall_mem_nil _⟩
  | case3 a b =>
    have ha := a.toNat_lt
    have hb := b.toNat_lt
    rw [encodeChars]
    simp only [List.forall_mem_cons]
    exact ⟨isPlain_symbol (by omega), isPlain_symbol (by omega), isPlain_symbol (by omega), hpad,
      List.forall_mem_nil _⟩
  | case4 a b c rest ih =>
    have ha := a.toNat_lt
    have hb := b.toNat_lt
    have hc := c.toNat_lt
    rw [encodeChars]
    simp only [List.forall_mem_cons]
    exact ⟨isPlain_symbol (by omega), isPlain_symbol (by omega), isPlain_symbol (by omega),
      isPlain_symbol (by omega), ih⟩

end ServiceBinding.Text.Base64
