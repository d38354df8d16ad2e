import TransferReport.Locale.Basic
import TransferReport.Number.Fixed
import TransferReport.SizeUnit

/-!
# The text of a size

A size is shown in a unit with one decimal place below ten units and with none from ten on, and
also with none when so little is left that the decimal would be a zero.  The choice looks at the
quotient of size and unit before it is cut, so just below ten it reads "10.0" and at ten "10".
The locale enters through its decimal mark alone.
-/

namespace TransferReport

structure SizeFormat where
  locale : Locale
  deriving DecidableEq, Inhabited

namespace SizeFormat

def ofValue (value : Value) : Except Fault SizeFormat :=
  (Locale.ofValue value).map SizeFormat.mk

def mark (f : SizeFormat) : Char := f.locale.mark

def text (f : SizeFormat) : String :=
  "FileSizeFormat(" ++ Text.quoted f.locale.tag ++ ")"

def wholeText (x : Number.Fixed) : String :=
  (if x.negative then "-" else "") ++ toString x.count

def tenthsText (mark : Char) (x : Number.Fixed) : String :=
  (if x.negative then "-" else "") ++ toString (x.count / 10) ++ String.singleton mark
    ++ toString (x.count % 10)

/-- A number without decimal places. -/
def large (x : Number) : Except Fault String :=
  (x.fixed? 0).map fun cut? => match cut? with
    | some cut => wholeText cut
    | none => "NaN"

/-- A number with one decimal place. -/
def small (f : SizeFormat) (x : Number) : Except Fault String :=
  (x.fixed? 1).map fun cut? => match cut? with
    | some cut => tenthsText f.mark cut
    | none => "NaN" ++ String.singleton f.mark ++ "0"

/-- The double nearest to 0.05, in units: below it a decimal place would show a zero. -/
def smallLimit : Nat := Number.Binary64.nearest (5 * Number.Binary64.one) 100

/-- The number ten, in units: from it on no decimal place is shown. -/
def largeLimit : Nat := 10 * Number.Binary64.one

/-- The double nearest to a size counted in a unit. -/
def scaled (size : Nat) (unit : SizeUnit) : Nat :=
  Number.Binary64.nearest (size * Number.Binary64.one) unit.bytes

/-- The number that shows a size in a unit. -/
def amount (f : SizeFormat) (size : Nat) (unit : SizeUnit) : Except Fault String :=
  let quotient := scaled size unit
  if Number.Binary64.limit ≤ quotient then .error .quotientOutOfRange
  else if unit = .byte then large (.int size)
  else if quotient < smallLimit || largeLimit ≤ quotient then large (.real (.finite false quotient))
  else f.small (.real (.finite false quotient))

def formatIn (f : SizeFormat) (size : Int) (unit : SizeUnit) (symbol : Bool) :
    Except Fault String :=
  if size < 0 then .error (Fault.negativeSize size).raised
  else (f.amount size.toNat unit).map fun amount =>
    amount ++ if symbol then " " ++ unit.symbol else ""

/-- The size in a unit, or in the one that suits it where none is asked for. -/
def formatAs (f : SizeFormat) (size : Int) (unit : Option SizeUnit) (symbol : Bool) :
    Except Fault String :=
  f.formatIn size (unit.getD (SizeUnit.forSize size.toNat)) symbol

def format (f : SizeFormat) (size : Int) : Except Fault String :=
  f.formatIn size (SizeUnit.forSize size.toNat) true

/-- How much of a size has been transferred, both in the unit of the whole; what has been
transferred alone when the whole is unknown or reached. -/
def progress (f : SizeFormat) (progressed total : Int) : Except Fault String :=
  if progressed < 0 then .error (Fault.negativeProgress progressed).raised
  else if 0 ≤ total && total < progressed then
    .error (Fault.progressBeyondTotal progressed total).raised
  else if 0 ≤ total && progressed != total then do
    let unit := SizeUnit.forSize total.toNat
    let part ← f.formatIn progressed unit false
    let whole ← f.formatIn total unit true
    pure (part ++ "/" ++ whole)
  else f.format progressed

end SizeFormat

end TransferReport
