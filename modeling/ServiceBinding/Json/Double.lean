/-!
Finite binary64 numbers in exact arithmetic: rounding a ratio to the nearest one, reading one as
`mantissa * 2 ^ exponent`, and the shortest decimal that rounds back to it. Nothing here uses
machine floating point, so every result can be computed in a proof.
-/
namespace ServiceBinding.Json

/-- A binary64 number, by its bits. -/
abbrev Double := UInt64

namespace Double

/-- The bit of the sign. -/
def signBit : Nat := 0x8000000000000000

/-- The lowest bit of the exponent field, which is also the bit that a normal number's mantissa has
above its fraction. -/
def hiddenBit : Nat := 0x10000000000000

/-- The exponent field of infinities and of what is no number. -/
def fieldLimit : Nat := 2047

def isNegative (d : Double) : Bool := signBit ≤ d.toNat

/-- Whether the number is one of the two zeros. -/
def isZero (d : Double) : Bool := d.toNat % signBit == 0

/-- Equality of the numbers, which does not tell the two zeros apart. -/
def same (a b : Double) : Bool := a == b || (a.isZero && b.isZero)

/-- The number with its sign bit set. -/
def negate (d : Double) : Double := UInt64.ofNat (d.toNat % signBit + signBit)

/-- The mantissa of the absolute value. -/
def mantissa (d : Double) : Nat :=
  let field := d.toNat % signBit / hiddenBit
  let fraction := d.toNat % hiddenBit
  if field = 0 then fraction else fraction + hiddenBit

/-- The power of two that the mantissa counts. -/
def exponent (d : Double) : Int :=
  let field := d.toNat % signBit / hiddenBit
  if field = 0 then -1074 else Int.ofNat field - 1075

/-- The number `top / bottom` times a power of two. -/
def scaled (top bottom : Nat) (shift : Int) : Nat × Nat :=
  if shift < 0 then (top, bottom * Nat.pow 2 (-shift).toNat)
  else (top * Nat.pow 2 shift.toNat, bottom)

/-- The nearest number to a ratio, a tie going to the even mantissa; none where that is beyond
the largest finite number. -/
def ofRatio? (top bottom : Nat) : Option Double :=
  if top = 0 then some 0
  else
    let magnitude : Int := (Nat.log2 top : Int) - Nat.log2 bottom
    let below := let (a, b) := scaled top bottom (-magnitude); a < b
    let power : Int := max (-1074) (if below then magnitude - 53 else magnitude - 52)
    let (a, b) := scaled top bottom (-power)
    let quotient := a / b
    let rest := 2 * (a % b)
    let rounded := if rest > b ∨ (rest = b ∧ quotient % 2 = 1) then quotient + 1 else quotient
    -- The hidden bit, and a carry to the next power of two, add themselves to the exponent field.
    let bits := (power + 1074) * hiddenBit + rounded
    if bits < fieldLimit * hiddenBit then some (UInt64.ofNat bits.toNat) else none

/-- The absolute value as a ratio. -/
def ratio (d : Double) : Nat × Nat := scaled d.mantissa 1 d.exponent

/-! ### Shortest decimals -/

/-- The exponent `k` with `10 ^ (k - 1) ≤ top / bottom < 10 ^ k`. -/
def magnitude10 (top bottom : Nat) : Int :=
  if bottom ≤ top then (Nat.toDigits 10 (top / bottom)).length
  else 1 - ((Nat.toDigits 10 ((bottom - 1) / top)).length : Int)

/-- The two ratios between which a decimal rounds to the number, and the number itself, over one
denominator: lower end, number, upper end, denominator. -/
def interval (d : Double) : Nat × Nat × Nat × Nat :=
  let m := d.mantissa
  let gap := if m = hiddenBit ∧ -1074 < d.exponent then 1 else 2
  let (factor, bottom) := scaled 1 1 (d.exponent - 2)
  ((4 * m - gap) * factor, 4 * m * factor, (4 * m + 2) * factor, bottom)

/-- A decimal, `digits * 10 ^ power`. -/
structure Decimal where
  digits : Nat
  power : Int
deriving DecidableEq, Repr

def Decimal.ratio (x : Decimal) : Nat × Nat :=
  if x.power < 0 then (x.digits, Nat.pow 10 (-x.power).toNat)
  else (x.digits * Nat.pow 10 x.power.toNat, 1)

/-- Whether a decimal rounds to the number; the ends of its interval do when its mantissa is
even. -/
def roundsTo (d : Double) (x : Decimal) : Bool :=
  let (low, _, high, bottom) := d.interval
  let (a, b) := x.ratio
  let between (p q : Nat) : Bool := if d.mantissa % 2 = 0 then p ≤ q else p < q
  between (low * b) (a * bottom) && between (a * bottom) (high * b)

/-- The multiple of `10 ^ power` that rounds to the number, if one does: of two, the nearer, and
the even one of two equally near. -/
def onGrid? (d : Double) (power : Int) : Option Decimal :=
  let (_, middle, _, bottom) := d.interval
  let (a, b) :=
    if power < 0 then (middle * Nat.pow 10 (-power).toNat, bottom)
    else (middle, bottom * Nat.pow 10 power.toNat)
  let lower : Decimal := ⟨a / b, power⟩
  let upper : Decimal := ⟨a / b + 1, power⟩
  let rest := 2 * (a % b)
  let lowerFirst := rest < b ∨ (rest = b ∧ lower.digits % 2 = 0)
  match d.roundsTo lower, d.roundsTo upper with
  | true, true => some (if lowerFirst then lower else upper)
  | true, false => some lower
  | false, true => some upper
  | false, false => none

/-- The decimal without trailing zeros in its digits. -/
def Decimal.reduced : Nat → Decimal → Decimal
  | 0, x => x
  | fuel + 1, x =>
    if x.digits ≠ 0 ∧ x.digits % 10 = 0 then Decimal.reduced fuel ⟨x.digits / 10, x.power + 1⟩
    else x

/-- The decimal with the fewest digits that rounds to a number other than zero. -/
def shortest (d : Double) : Decimal :=
  let (top, bottom) := d.ratio
  let k := magnitude10 top bottom
  let found := (List.range 17).findSome? fun n => d.onGrid? (k - (n + 1 : Nat))
  (found.getD ⟨0, 0⟩).reduced 20

/-! ### Text -/

/-- An exponent with its mark and its sign. -/
def writeExponent (e : Int) : List Char :=
  ['e', if e < 0 then '-' else '+'] ++ Nat.toDigits 10 e.natAbs

/-- A decimal whose value is `0.digits * 10 ^ point`: positional for points from -4 to 16, with
a digit on each side of the point, and with an exponent elsewhere. -/
def writeDecimal (x : Decimal) : List Char :=
  let digits := Nat.toDigits 10 x.digits
  let point : Int := digits.length + x.power
  if 0 ≤ x.power ∧ point ≤ 16 then
    digits ++ List.replicate x.power.toNat '0' ++ ['.', '0']
  else if 0 < point ∧ point ≤ 16 then
    digits.take point.toNat ++ ['.'] ++ digits.drop point.toNat
  else if -5 < point ∧ point ≤ 0 then
    ['0', '.'] ++ List.replicate (-point).toNat '0' ++ digits
  else
    match digits with
    | [] => []
    | first :: rest =>
      first :: (if rest.isEmpty then [] else '.' :: rest) ++ writeExponent (point - 1)

/-- The number in the fewest digits that read back as it. -/
def toText (d : Double) : String :=
  let sign := if d.isNegative then ['-'] else []
  String.ofList (sign ++ if d.isZero then ['0', '.', '0'] else writeDecimal d.shortest)

end Double

end ServiceBinding.Json
