/-!
White space: the characters a text may be padded with, and what is left of a text when the
padding at its ends is dropped.
-/
namespace ServiceBinding.Text

/-- The characters with the Unicode property White_Space. -/
def isBlank (c : Char) : Bool :=
  let n := c.toNat
  (9 ≤ n && n ≤ 13) || n == 0x20 || n == 0x85 || n == 0xA0 || n == 0x1680 ||
    (0x2000 ≤ n && n ≤ 0x200A) || n == 0x2028 || n == 0x2029 || n == 0x202F || n == 0x205F ||
    n == 0x3000

/-- The characters from the first to the last one that `drop` does not hold of. -/
def trimWhere (drop : Char → Bool) (s : List Char) : List Char :=
  ((s.dropWhile drop).reverse.dropWhile drop).reverse

/-- The characters without those at the end that `drop` holds of. -/
def trimEndWhere (drop : Char → Bool) (s : List Char) : List Char :=
  (s.reverse.dropWhile drop).reverse

/-- The text without white space at its ends. -/
def trim (s : String) : String := String.ofList (trimWhere isBlank s.toList)

/-- Whether the text is white space only. -/
def isBlankText (s : String) : Bool := s.toList.all isBlank

/-- The text without slashes at its end. -/
def trimEndSlashes (s : String) : String := String.ofList (trimEndWhere (· == '/') s.toList)

end ServiceBinding.Text
