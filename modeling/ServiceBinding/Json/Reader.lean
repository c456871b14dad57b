import ServiceBinding.Bytes
import ServiceBinding.Json.Basic
import ServiceBinding.Text.Numeral

/-!
Reading JSON text. A number without fraction and exponent that fits 64 bits, signed or unsigned,
is an integer, except `-0`. Any other number is a double, computed from its first significant
digits, as many as fit 64 bits, and a power of ten.
-/
namespace ServiceBinding.Json.Reader

/-- A position in a text: the characters that are left. -/
abbrev Rest := List Char

def skip (s : Rest) : Rest :=
  s.dropWhile fun c => c == ' ' || c == '\n' || c == '\t' || c == '\r'

/-! ### Numbers -/

/-- A number being read: its sign, its significant digits so far, the power of ten that counts
them, and whether further digits still count. -/
structure Scan where
  negative : Bool
  significand : Nat
  power : Int
  full : Bool

/-- Whether one more digit fits the significand. -/
def Scan.fits (n : Scan) (digit : Nat) : Bool :=
  !n.full && n.significand * 10 + digit < UInt64.size

/-- One more digit of the integer part. -/
def Scan.pushInteger (n : Scan) (digit : Nat) : Scan :=
  if n.fits digit then { n with significand := n.significand * 10 + digit }
  else { n with power := n.power + 1, full := true }

/-- One more digit of the fraction. -/
def Scan.pushFraction (n : Scan) (digit : Nat) : Scan :=
  if n.fits digit then
    { n with significand := n.significand * 10 + digit, power := n.power - 1 }
  else { n with full := true }

/-- The digits at the start of a text and what follows them. -/
def takeDigits (s : Rest) : List Nat × Rest :=
  ((s.takeWhile fun c => (Text.digit? c).isSome).filterMap Text.digit?,
    s.dropWhile fun c => (Text.digit? c).isSome)

/-- The product or quotient of a double and a power of ten up to `10 ^ 308`, both rounded. -/
def scale? (d : Double) (power : Int) : Option Double := do
  let (a, b) := d.ratio
  let (p, q) := (← Double.ofRatio? (Nat.pow 10 power.natAbs) 1).ratio
  if power < 0 then Double.ofRatio? (a * q) (b * p) else Double.ofRatio? (a * p) (b * q)

/-- A double times a power of ten; a power below `10 ^ (-308)` is reached in several steps. -/
def scaleBy? : Nat → Double → Int → Option Double
  | 0, d, _ => some d
  | fuel + 1, d, power =>
    if power.natAbs ≤ 308 then scale? d power
    else if d.isZero then some d
    else if 0 < power then none
    else do scaleBy? fuel (← scale? d (-308)) (power + (308 : Int))

/-- The double a scan stands for. -/
def Scan.toDouble? (n : Scan) : Option Number := do
  let d ← scaleBy? (n.power.natAbs + 1) (← Double.ofRatio? n.significand 1) n.power
  return .double (if n.negative then d.negate else d)

/-- The number a scan of an integer stands for. -/
def Scan.toInteger? (n : Scan) : Option Number :=
  if n.full then n.toDouble?
  else if !n.negative then some (.int n.significand)
  else if n.significand = 0 ∨ Int64.minValue.toInt.natAbs < n.significand then n.toDouble?
  else some (.int (-n.significand))

/-- The exponent part of a number, after its mark. -/
def exponent? (n : Scan) (s : Rest) : Option (Number × Rest) :=
  let (negative, s) := match s with
    | '+' :: rest => (false, rest)
    | '-' :: rest => (true, rest)
    | s => (false, s)
  match takeDigits s with
  | ([], _) => none
  | (digits, rest) =>
    let size : Nat := digits.foldl (fun e d => e * 10 + d) 0
    if Int32.maxValue.toInt < size then
      -- Beyond any double: zero, or too large to be one.
      if n.significand ≠ 0 ∧ !negative then none
      else do return (← Scan.toDouble? { n with significand := 0, power := 0 }, rest)
    else do
      let power := if negative then n.power - (size : Int) else n.power + (size : Int)
      return (← Scan.toDouble? { n with power := power }, rest)

/-- A number, from its first digit on. -/
def number? (negative : Bool) (s : Rest) : Option (Number × Rest) :=
  match takeDigits s with
  | ([], _) => none
  | (digits@(first :: more), rest) =>
    if first = 0 ∧ !more.isEmpty then none
    else
      let whole := digits.foldl Scan.pushInteger ⟨negative, 0, 0, false⟩
      match rest with
      | '.' :: rest =>
        match takeDigits rest with
        | ([], _) => none
        | (digits, rest) =>
          let n := digits.foldl Scan.pushFraction { whole with full := false }
          match rest with
          | 'e' :: rest => exponent? n rest
          | 'E' :: rest => exponent? n rest
          | rest => do return (← n.toDouble?, rest)
      | 'e' :: rest => exponent? whole rest
      | 'E' :: rest => exponent? whole rest
      | rest => do return (← whole.toInteger?, rest)

/-! ### Strings -/

/-- The value of four hexadecimal digits and the rest after them. -/
def hex4? : Rest → Option (Nat × Rest)
  | a :: b :: c :: d :: rest => do
    let a ← Bytes.hexDigit? a
    let b ← Bytes.hexDigit? b
    let c ← Bytes.hexDigit? c
    let d ← Bytes.hexDigit? d
    return (((a * 16 + b) * 16 + c) * 16 + d, rest)
  | _ => none

/-- The character of an escape, after its backslash. -/
def escape? : Rest → Option (Char × Rest)
  | '"' :: rest => some ('"', rest)
  | '\\' :: rest => some ('\\', rest)
  | '/' :: rest => some ('/', rest)
  | 'b' :: rest => some ('\x08', rest)
  | 'f' :: rest => some ('\x0c', rest)
  | 'n' :: rest => some ('\n', rest)
  | 'r' :: rest => some ('\r', rest)
  | 't' :: rest => some ('\t', rest)
  | 'u' :: rest => do
    let (unit, rest) ← hex4? rest
    if 0xDC00 ≤ unit ∧ unit < 0xE000 then none
    else if 0xD800 ≤ unit ∧ unit < 0xDC00 then
      match rest with
      | '\\' :: 'u' :: rest => do
        let (low, rest) ← hex4? rest
        if 0xDC00 ≤ low ∧ low < 0xE000 then
          return (Char.ofNat (0x10000 + (unit - 0xD800) * 0x400 + (low - 0xDC00)), rest)
        else none
      | _ => none
    else return (Char.ofNat unit, rest)
  | _ => none

/-- The characters of a string up to its closing quote, after those read so far. -/
def string? : Nat → List Char → Rest → Option (String × Rest)
  | 0, _, _ => none
  | fuel + 1, read, s =>
    match s with
    | '"' :: rest => some (String.ofList read.reverse, rest)
    | '\\' :: rest => do
      let (c, rest) ← escape? rest
      string? fuel (c :: read) rest
    | c :: rest => if c.toNat < 0x20 then none else string? fuel (c :: read) rest
    | [] => none

/-! ### Values -/

/-- What is read next: a value, the items of an array after the first one, or the members of an
object after the first one. -/
inductive Goal where
  | value
  | items (read : List Json)
  | members (read : List (String × Json))

/-- Reads one goal; every step uses one unit of fuel and at least one character. -/
def read? : Nat → Goal → Rest → Option (Json × Rest)
  | 0, _, _ => none
  | fuel + 1, .value, s =>
    match skip s with
    | 'n' :: 'u' :: 'l' :: 'l' :: rest => some (.null, rest)
    | 't' :: 'r' :: 'u' :: 'e' :: rest => some (.bool true, rest)
    | 'f' :: 'a' :: 'l' :: 's' :: 'e' :: rest => some (.bool false, rest)
    | '"' :: rest => do
      let (s, rest) ← string? fuel [] rest
      return (.str s, rest)
    | '[' :: rest =>
      match skip rest with
      | ']' :: rest => some (.arr [], rest)
      | rest => do
        let (item, rest) ← read? fuel .value rest
        read? fuel (.items [item]) rest
    | '{' :: rest =>
      match skip rest with
      | '}' :: rest => some (.obj [], rest)
      | rest => member fuel [] rest
    | '-' :: rest => do
      let (n, rest) ← number? true rest
      return (.num n, rest)
    | s => do
      let (n, rest) ← number? false s
      return (.num n, rest)
  | fuel + 1, .items read, s =>
    match skip s with
    | ']' :: rest => some (.arr read.reverse, rest)
    | ',' :: rest => do
      let (item, rest) ← read? fuel .value rest
      read? fuel (.items (item :: read)) rest
    | _ => none
  | fuel + 1, .members read, s =>
    match skip s with
    | '}' :: rest => some (Json.ofMembers read.reverse, rest)
    | ',' :: rest => member fuel read rest
    | _ => none
where
  /-- One member of an object and the members after it. -/
  member (fuel : Nat) (read : List (String × Json)) (s : Rest) : Option (Json × Rest) :=
    match skip s with
    | '"' :: rest => do
      let (key, rest) ← string? fuel [] rest
      match skip rest with
      | ':' :: rest => do
        let (value, rest) ← read? fuel .value rest
        read? fuel (.members ((key, value) :: read)) rest
      | _ => none
    | _ => none

/-- The value a text writes, with nothing but white space around it. -/
def ofText? (s : String) : Option Json := do
  let (j, rest) ← read? (s.length + 1) .value s.toList
  if (skip rest).isEmpty then some j else none

end ServiceBinding.Json.Reader
