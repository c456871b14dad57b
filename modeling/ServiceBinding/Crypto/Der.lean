import ServiceBinding.Bytes

/-!
DER elements: a tag, a length and that many octets of content. Lengths below 128 take one octet;
longer ones are written in as few octets as they need, after an octet that counts these. Leading
zeros of a long length are accepted when reading.
-/
namespace ServiceBinding.Crypto.Der

def sequence : UInt8 := 0x30

def integer : UInt8 := 0x02

def octetString : UInt8 := 0x04

/-- The octets of a 64-bit number without leading zeros. -/
def minimal (n : Nat) : Bytes := (Bytes.word 8 n).dropWhile (· == 0)

/-- The octets of a length. -/
def lengthOctets (n : Nat) : Bytes :=
  if n < 0x80 then [UInt8.ofNat n]
  else
    let octets := minimal n
    UInt8.ofNat (0x80 + octets.length) :: octets

def element (tag : UInt8) (content : Bytes) : Bytes :=
  tag :: (lengthOctets content.length ++ content)

/-- An element that has been read, and what follows it. -/
structure Element where
  tag : UInt8
  content : Bytes
  rest : Bytes
deriving DecidableEq, Repr

/-- The length that a text of octets begins with, and what follows it. -/
def readLength? : Bytes → Option (Nat × Bytes)
  | [] => none
  | first :: rest =>
    if first < 0x80 then some (first.toNat, rest)
    else
      let count := first.toNat - 0x80
      if count = 0 ∨ 8 < count ∨ rest.length < count then none
      else some (Bytes.value (rest.take count), rest.drop count)

/-- The element that a text of octets begins with. -/
def read? : Bytes → Option Element
  | [] => none
  | tag :: rest => do
    let (length, rest) ← readLength? rest
    if rest.length < length then none
    else return ⟨tag, rest.take length, rest.drop length⟩

end ServiceBinding.Crypto.Der
