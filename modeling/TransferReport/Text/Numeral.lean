/-!
# Integers as texts

An integer is written and read in decimal digits, and only up to `digitLimit` of them.  The sign is
not counted.
-/

namespace TransferReport.Text

/-- The number of digits that a decimal integer may have. -/
def digitLimit : Nat := 4300

/-- Whether an integer has a text at all. -/
def isWritable (n : Int) : Bool :=
  (Nat.toDigits 10 n.natAbs).length ≤ digitLimit

end TransferReport.Text
