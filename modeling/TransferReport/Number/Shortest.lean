import TransferReport.Number.Binary64

/-!
# The shortest decimal of a double

A finite double is written as the decimal with the fewest digits that reads back as that double;
of two such decimals the nearer one is taken, and the one with an even last digit when they are
equally near.  The search goes from coarse decimal grids to fine ones and tests the two neighbours
of the double on each: a decimal with fewer digits lies on a coarser grid, and if any point of a
grid reads back, so does one of the two neighbours.
-/

namespace TransferReport.Number

/-- The decimal `coefficient * 10 ^ exponent`. -/
structure Decimal where
  coefficient : Nat
  exponent : Int
  deriving DecidableEq, Inhabited

namespace Decimal

def digitCount (n : Nat) : Nat :=
  (Nat.toDigits 10 n).length

/-- The double nearest to a decimal, in units and without an upper limit. -/
def units (x : Decimal) : Nat :=
  Binary64.nearest (x.coefficient * Nat.pow 10 x.exponent.toNat * Binary64.one)
    (Nat.pow 10 (-x.exponent).toNat)

/-- The exact decimal of a count of units: `2 ^ -1074` is `5 ^ 1074 * 10 ^ -1074`. -/
def exact (units : Nat) : Decimal :=
  ⟨units * Nat.pow 5 1074, -1074⟩

/-- The decimal of the given exponent that reads back as the double of so many units, if there
is one; of two the nearer, or the even one. -/
def onGrid? (units : Nat) (exponent : Int) : Option Decimal :=
  let n := units * Nat.pow 10 (-exponent).toNat
  let d := Binary64.one * Nat.pow 10 exponent.toNat
  let below : Decimal := ⟨n / d, exponent⟩
  let above : Decimal := ⟨n / d + 1, exponent⟩
  if below.units = units then
    if above.units = units then some ⟨roundHalfEven n d, exponent⟩ else some below
  else if above.units = units then some above
  else none

/-- The grids that are tried, from the coarsest one that can hold a decimal of the double down
to the finest one that any double needs. -/
def gridExponents (units : Nat) : List Int :=
  let whole := digitCount (units / Binary64.one)
  (List.range (whole + 325)).map fun (i : Nat) => (whole : Int) - (i : Int)

/-- The shortest decimal that reads back as the double of so many units. -/
def shortest (units : Nat) : Decimal :=
  ((gridExponents units).findSome? (onGrid? units)).getD (exact units)

/-- The number of the last of `places` decimal places that is nearest to the decimal, a half
going up. -/
def places (places : Nat) (x : Decimal) : Nat :=
  let shift := x.exponent + places
  roundHalfUp (x.coefficient * Nat.pow 10 shift.toNat) (Nat.pow 10 (-shift).toNat)

end Decimal

namespace Binary64

def positional (digits : List Char) (point : Int) : List Char :=
  if point ≤ 0 then '0' :: '.' :: List.replicate (-point).toNat '0' ++ digits
  else if point < digits.length then digits.take point.toNat ++ '.' :: digits.drop point.toNat
  else digits ++ List.replicate (point.toNat - digits.length) '0' ++ ['.', '0']

def scientific (digits : List Char) (power : Int) : List Char :=
  let fraction := if digits.length ≤ 1 then [] else '.' :: digits.drop 1
  let magnitude := Nat.toDigits 10 power.natAbs
  let padded := if magnitude.length < 2 then '0' :: magnitude else magnitude
  digits.take 1 ++ fraction ++ 'e' :: (if power < 0 then '-' else '+') :: padded

/-- The text of a finite magnitude: positional from `10 ^ -4` on and below `10 ^ 16`. -/
def magnitudeText (units : Nat) : List Char :=
  if units = 0 then ['0', '.', '0']
  else
    let x := Decimal.shortest units
    let all := Nat.toDigits 10 x.coefficient
    let digits := (all.reverse.dropWhile (· == '0')).reverse
    let point := x.exponent + all.length
    if -4 < point && point ≤ 16 then positional digits point else scientific digits (point - 1)

def text : Binary64 → String
  | nan => "nan"
  | infinity negative => if negative then "-inf" else "inf"
  | finite negative units =>
    (if negative then "-" else "") ++ String.ofList (magnitudeText units)

end Binary64

end TransferReport.Number
