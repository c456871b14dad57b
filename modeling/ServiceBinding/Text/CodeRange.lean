/-!
Sets of code points written as a list of closed ranges.
-/
namespace ServiceBinding.Text

def inRanges (ranges : List (Nat × Nat)) (c : Char) : Bool :=
  ranges.any fun r => r.1 ≤ c.toNat && c.toNat ≤ r.2

end ServiceBinding.Text
