import ServiceBinding.Bytes

/-!
Encoded values as a lenient reader takes them: identifier octets, length octets and content. An
identifier holds a class, a mark for content that is made of further values, and a number, which
from thirty-one on takes octets of its own. A length may be written in more octets than it needs.
It may also be left open, when the content is made of further values and goes on to an end mark.
-/
namespace ServiceBinding.Crypto.Ber

/-! ### Identifiers -/

/-- What an identifier says of the value that it begins. -/
structure Identifier where
  /-- Whether the meaning of the number hangs on where the value stands. -/
  contextual : Bool
  /-- Whether the content is made of further values. -/
  constructed : Bool
  number : Nat
deriving DecidableEq, Repr

/-- How many octets the number of an identifier may take after the first one. -/
def numberOctets : Nat := 5

/-- A number in groups of seven bits, of which the last stands in an octet below 128. The low 32
bits of it are kept. -/
def groups? : Nat → Nat → Bytes → Option (Nat × Bytes)
  | limit + 1, n, octet :: rest =>
    let n := (n * 0x80 + octet.toNat % 0x80) % UInt32.size
    if octet < 0x80 then some (n, rest) else groups? limit n rest
  | _, _, _ => none

/-- The identifier that octets begin with, and what follows it. -/
def identifier? : Bytes → Option (Identifier × Bytes)
  | [] => none
  | first :: rest => do
    let low := first.toNat % 0x20
    let (number, rest) ← if low = 0x1F then groups? numberOctets 0 rest else some (low, rest)
    return (⟨first.toNat / 0x40 = 2, first.toNat / 0x20 % 2 = 1, number⟩, rest)

/-! ### Lengths -/

/-- How far content goes. -/
inductive Extent where
  | octets (count : Nat)
  | toEndMark
deriving DecidableEq, Repr

/-- The extent that octets begin with, and what follows it. -/
def extent? : Bytes → Option (Extent × Bytes)
  | [] => none
  | first :: rest =>
    if first < 0x80 then some (.octets first.toNat, rest)
    else
      let count := first.toNat - 0x80
      if count = 0 then some (.toEndMark, rest)
      else if count = 0x7F ∨ rest.length < count then none
      else some (.octets (Bytes.value (rest.take count)), rest.drop count)

/-- All that stands before the content of a value, and what follows it. -/
structure Heading where
  identifier : Identifier
  extent : Extent
  rest : Bytes
deriving DecidableEq, Repr

/-- The heading that octets begin with. -/
def heading? (b : Bytes) : Option Heading := do
  let (identifier, rest) ← identifier? b
  let (extent, rest) ← extent? rest
  return ⟨identifier, extent, rest⟩

/-! ### Values -/

/-- A value whose length was given, and what follows it. -/
structure Value where
  identifier : Identifier
  content : Bytes
  rest : Bytes
deriving DecidableEq, Repr

/-- The value of a given length that octets begin with. -/
def value? (b : Bytes) : Option Value := do
  let h ← heading? b
  match h.extent with
  | .octets count =>
    if h.rest.length < count then none
    else return ⟨h.identifier, h.rest.take count, h.rest.drop count⟩
  | .toEndMark => none

/-- The value of a given length and number that octets begin with. -/
def numbered? (number : Nat) (b : Bytes) : Option Value := do
  let v ← value? b
  if v.identifier.number = number then return v else none

/-- How many values of open length may stand in one another. -/
def depthLimit : Nat := 49

/-- What follows the end mark of the outermost of some values of open length, whose content is
read from within the innermost. An end mark is an empty value of number zero. -/
def pastEndMarks : Nat → Nat → Bytes → Option Bytes
  | 0, _, _ => none
  | fuel + 1, opened, b => do
    let h ← heading? b
    match h.extent with
    | .toEndMark =>
      if h.identifier.constructed ∧ opened < depthLimit then
        pastEndMarks fuel (opened + 1) h.rest
      else none
    | .octets count =>
      if count = 0 ∧ h.identifier.number = 0 then
        if opened ≤ 1 then return h.rest else pastEndMarks fuel (opened - 1) h.rest
      else if h.rest.length < count then none
      else pastEndMarks fuel opened (h.rest.drop count)

/-- What follows a value of a given number, whether its length was given or left open. -/
def pastNumbered? (number : Nat) (b : Bytes) : Option Bytes := do
  let h ← heading? b
  if h.identifier.number ≠ number then none
  else match h.extent with
    | .octets count => if h.rest.length < count then none else return h.rest.drop count
    | .toEndMark =>
      if h.identifier.constructed then pastEndMarks h.rest.length 1 h.rest else none

/-! ### Contents -/

def integer : Nat := 2

def boolean : Nat := 1

def bitString : Nat := 3

def octetString : Nat := 4

def sequence : Nat := 16

/-- The number of points in time with a year of two digits. -/
def shortTime : Nat := 23

/-- The number of points in time with a year of four digits. -/
def longTime : Nat := 24

/-- Whether content is that of an integer from zero to the largest of 32 bits, in as few octets
as it takes. -/
def isWord : Bytes → Bool
  | [] => false
  | [octet] => octet < 0x80
  | first :: second :: rest =>
    rest.length ≤ (if first = 0 then 3 else 2) &&
      (if first = 0 then 0x80 ≤ second else first < 0x80)

/-- Whether content is that of a bit string: an octet that counts the unused bits, which are zero,
and the octets at whose end they stand. -/
def isBits : Bytes → Bool
  | [] => false
  | unused :: octets =>
    match octets.getLast? with
    | none => unused = 0
    | some last => unused ≤ 8 && last.toNat % Nat.pow 2 unused.toNat == 0

end ServiceBinding.Crypto.Ber
