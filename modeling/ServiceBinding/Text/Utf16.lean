import ServiceBinding.Bytes

/-!
UTF-16 with big-endian units: one unit for the characters of the basic plane, a surrogate pair
for the others.
-/
namespace ServiceBinding.Text

def units16 (c : Char) : List Nat :=
  let n := c.toNat
  if n < 0x10000 then [n]
  else [0xD800 + (n - 0x10000) / 0x400, 0xDC00 + (n - 0x10000) % 0x400]

/-- The octets of a text in big-endian UTF-16. -/
def utf16 (s : String) : Bytes := (s.toList.flatMap units16).flatMap (Bytes.word 2)

end ServiceBinding.Text
