import TransferReport.Number.Rounding

/-!
# Doubles

A double is not a number, an infinity, or a signed whole multiple of the least positive double
`2 ^ -1074`.  Counting in that unit keeps every operation in exact natural-number arithmetic: an
operation takes the exact result and rounds it once, to the nearest double and to the even one
of two equally near.
-/

namespace TransferReport.Number

/-- A double; `finite negative units` is `units * 2 ^ -1074` with the given sign. -/
inductive Binary64 where
  | nan
  | infinity (negative : Bool)
  | finite (negative : Bool) (units : Nat)
  deriving DecidableEq, Inhabited

namespace Binary64

def one : Nat := Nat.pow 2 1074

/-- The first power of two that is too large for a double. -/
def limit : Nat := Nat.pow 2 2098

/-- The distance of neighbouring doubles at `units`: 53 binary digits are kept. -/
def spacing (units : Nat) : Nat :=
  Nat.pow 2 (Nat.log2 units + 1 - 53)

/-- The double nearest to the quotient `n / d`, all three counted in units and without an upper
limit.  A half goes to the multiple of the spacing whose quotient by it is even. -/
def nearest (n d : Nat) : Nat :=
  roundHalfEven n (d * spacing (n / d)) * spacing (n / d)

/-- The double nearest to `n / d` units with the given sign, an infinity beyond the limit. -/
def ofQuotient (negative : Bool) (n d : Nat) : Binary64 :=
  if nearest n d < limit then finite negative (nearest n d) else infinity negative

/-- The double with the given sign bit, eleven exponent bits and 52 fraction bits. -/
def ofBits (bits : UInt64) : Binary64 :=
  let negative := bits.toNat / Nat.pow 2 63 = 1
  let exponent := bits.toNat / Nat.pow 2 52 % Nat.pow 2 11
  let fraction := bits.toNat % Nat.pow 2 52
  if exponent = 2047 then if fraction = 0 then infinity negative else nan
  else if exponent = 0 then finite negative fraction
  else finite negative ((Nat.pow 2 52 + fraction) * Nat.pow 2 (exponent - 1))

def ofInt (n : Int) : Binary64 :=
  ofQuotient (decide (n < 0)) (n.natAbs * one) 1

/-- The double nearest to `coefficient * 10 ^ exponent` with the given sign.  Decimals that lie
far outside the range of doubles are recognised by the position of their first digit. -/
def ofDecimal (negative : Bool) (coefficient : Nat) (exponent : Int) : Binary64 :=
  let point := exponent + (Nat.toDigits 10 coefficient).length
  if coefficient = 0 || point < -400 then finite negative 0
  else if 400 < point then infinity negative
  else ofQuotient negative (coefficient * Nat.pow 10 exponent.toNat * one)
    (Nat.pow 10 (-exponent).toNat)

def signed (negative : Bool) (units : Nat) : Int :=
  if negative then -(units : Int) else units

def sub : Binary64 → Binary64 → Binary64
  | nan, _ => nan
  | _, nan => nan
  | infinity a, infinity b => if a = b then nan else infinity a
  | infinity a, finite _ _ => infinity a
  | finite _ _, infinity b => infinity (!b)
  | finite a m, finite b n =>
    let exact := signed a m - signed b n
    ofQuotient (if exact = 0 then a && !b else decide (exact < 0)) exact.natAbs 1

def div : Binary64 → Binary64 → Binary64
  | nan, _ => nan
  | _, nan => nan
  | infinity _, infinity _ => nan
  | infinity a, finite b _ => infinity (a != b)
  | finite a _, infinity b => finite (a != b) 0
  | finite a m, finite b n =>
    if n = 0 then if m = 0 then nan else infinity (a != b)
    else ofQuotient (a != b) (m * one) n

def nonpositive : Binary64 → Bool
  | nan => false
  | infinity negative => negative
  | finite negative units => negative || units == 0

def round (negative : Bool) (units : Nat) : Int :=
  let magnitude := roundHalfEven units one
  if negative then -(magnitude : Int) else magnitude

def truncate (negative : Bool) (units : Nat) : Int :=
  let magnitude := units / one
  if negative then -(magnitude : Int) else magnitude

end Binary64

end TransferReport.Number
