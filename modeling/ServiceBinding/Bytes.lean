/-!
Octet strings and their elementary readings: UTF-8 text, big-endian words of a fixed width and
hexadecimal digits. A byte string is a list, so that the kernel evaluates what is written about it.
-/
namespace ServiceBinding

/-- A byte string. -/
abbrev Bytes := List UInt8

namespace Bytes

/-- The UTF-8 octets of a text. -/
def ofText (s : String) : Bytes := s.toUTF8.data.toList

/-- The text whose UTF-8 octets these are, if they are well-formed UTF-8. -/
def toText? (b : Bytes) : Option String := String.fromUTF8? ⟨b.toArray⟩

/-! ### Words -/

/-- The low `8 * width` bits of `n`, most significant octet first. -/
def word : Nat → Nat → Bytes
  | 0, _ => []
  | width + 1, n => UInt8.ofNat (n / Nat.pow 256 width) :: word width n

/-- The number whose octets these are, most significant first. -/
def value (b : Bytes) : Nat := b.foldl (fun n octet => n * 256 + octet.toNat) 0

@[simp] theorem length_word (width n : Nat) : (word width n).length = width := by
  induction width with
  | zero => rfl
  | succ width ih => simp [word, ih]

/-! ### Exclusive or -/

/-- The octetwise exclusive or, as long as the shorter of the two. -/
def xor (a b : Bytes) : Bytes := List.zipWith (· ^^^ ·) a b

/-! ### Hexadecimal -/

/-- The lower-case hexadecimal digit of a number below sixteen. -/
def hexDigit (n : Nat) : Char :=
  Char.ofNat (if n < 10 then '0'.toNat + n else 'a'.toNat + (n - 10))

/-- The number a hexadecimal digit of either case stands for. -/
def hexDigit? (c : Char) : Option Nat :=
  if '0' ≤ c ∧ c ≤ '9' then some (c.toNat - '0'.toNat)
  else if 'a' ≤ c ∧ c ≤ 'f' then some (c.toNat - 'a'.toNat + 10)
  else if 'A' ≤ c ∧ c ≤ 'F' then some (c.toNat - 'A'.toNat + 10)
  else none

end Bytes

end ServiceBinding
