import TransferReport.Number.Arithmetic

/-!
# Numbers with a fixed count of decimal places

A number is cut to a fixed count of places from its decimal: the digits of an integer, the
shortest decimal of a double.  A half goes away from zero, the sign is kept even on a zero, and
at most 28 digits are kept in all.
-/

namespace TransferReport.Number

/-- A number counted in last decimal places. -/
structure Fixed where
  negative : Bool
  count : Nat
  deriving DecidableEq

/-- The first count that needs more digits than are kept. -/
def Fixed.limit : Nat := Nat.pow 10 28

def Fixed.ofCount (negative : Bool) (count : Nat) : Except Fault Fixed :=
  if count < Fixed.limit then .ok ⟨negative, count⟩ else .error .tooManyDigits

/-- A number cut to a fixed count of places; `none` for a double that is not a number.  An integer
is read off its text. -/
def fixed? (places : Nat) : Number → Except Fault (Option Fixed)
  | int n =>
    if Text.isWritable n then
      (Fixed.ofCount (decide (n < 0)) (Decimal.places places ⟨n.natAbs, 0⟩)).map some
    else .error .unwritableInteger
  | real .nan => .ok none
  | real (.infinity _) => .error .tooManyDigits
  | real (.finite negative units) =>
    (Fixed.ofCount negative (Decimal.places places (Decimal.shortest units))).map some

end TransferReport.Number
