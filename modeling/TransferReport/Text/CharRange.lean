/-!
# Ranges of characters

A class of characters given by a table lists its code points as inclusive ranges.
-/

namespace TransferReport.Text

/-- The code point of `c` lies in one of the inclusive ranges. -/
def inRanges (ranges : List (Nat × Nat)) (c : Char) : Bool :=
  ranges.any fun range => range.1 ≤ c.toNat && c.toNat ≤ range.2

end TransferReport.Text
