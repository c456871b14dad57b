/-!
Decimal numerals of unsigned words: ASCII digits after an optional plus sign, any number of
leading zeros, and a value that fits the word.
-/
namespace ServiceBinding.Text

/-- The value of an ASCII decimal digit. -/
def digit? (c : Char) : Option Nat :=
  if '0' ≤ c ∧ c ≤ '9' then some (c.toNat - '0'.toNat) else none

/-- The value of a run of digits that follows digits of value `n`. -/
def digitsFrom? (n : Nat) : List Char → Option Nat
  | [] => some n
  | c :: rest => do digitsFrom? (n * 10 + (← digit? c)) rest

/-- The value of a numeral below `bound`. -/
def numeral? (bound : Nat) (s : List Char) : Option Nat :=
  let digits := match s with
    | '+' :: rest => rest
    | s => s
  if digits.isEmpty then none
  else (digitsFrom? 0 digits).filter (· < bound)

/-- The value of a numeral of a 64-bit word. -/
def word64? (s : String) : Option Nat := numeral? UInt64.size s.toList

/-- ASCII letters and digits. -/
def isAsciiAlphanumeric (c : Char) : Bool :=
  ('a' ≤ c && c ≤ 'z') || ('A' ≤ c && c ≤ 'Z') || ('0' ≤ c && c ≤ '9')

end ServiceBinding.Text
