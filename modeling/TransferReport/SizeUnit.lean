import TransferReport.Fault
import TransferReport.Text.Blank
import TransferReport.Text.Case.Basic

/-!
# Units of size

The byte and its three decimal multiples.  `forSize` picks the largest unit that fits into a
size, and `named` finds a unit by its symbol or its long name in any case.
-/

namespace TransferReport

inductive SizeUnit where
  | byte
  | kilobyte
  | megabyte
  | gigabyte
  deriving DecidableEq, Inhabited

namespace SizeUnit

def all : List SizeUnit := [byte, kilobyte, megabyte, gigabyte]

def bytes : SizeUnit → Nat
  | byte => 1
  | kilobyte => 1000
  | megabyte => 1000 * 1000
  | gigabyte => 1000 * 1000 * 1000

def symbol : SizeUnit → String
  | byte => "B"
  | kilobyte => "kB"
  | megabyte => "MB"
  | gigabyte => "GB"

/-- The long name of a unit. -/
def name : SizeUnit → String
  | byte => "BYTE"
  | kilobyte => "KILOBYTE"
  | megabyte => "MEGABYTE"
  | gigabyte => "GIGABYTE"

/-- The largest unit that is not larger than the size; the byte for nothing at all. -/
def forSize (size : Nat) : SizeUnit :=
  (all.reverse.find? fun unit => unit.bytes ≤ size).getD byte

def select (size : Int) : Except Fault SizeUnit :=
  if size < 0 then .error (Fault.negativeSize size).raised else .ok (forSize size.toNat)

/-- The form in which names of units are compared. -/
def key (s : String) : List Char :=
  Text.lower s.toList

/-- The unit has this form as the key of its symbol or of its long name. -/
def answersTo (unit : SizeUnit) (written : List Char) : Bool :=
  written = key unit.symbol || written = key unit.name

/-- The unit whose symbol or long name is written in a text, blanks around it and case aside. -/
def named? (s : String) : Option SizeUnit :=
  let written := Text.lower (Text.trim s.toList)
  all.find? fun unit => unit.answersTo written

def named (s : String) : Except Fault SizeUnit :=
  match named? s with
  | some unit => .ok unit
  | none => .error (.unknownUnit s)

theorem mem_all (unit : SizeUnit) : unit ∈ all := by
  cases unit <;> simp [all]

theorem bytes_pos (unit : SizeUnit) : 0 < unit.bytes := by
  cases unit <;> decide

end SizeUnit

end TransferReport
