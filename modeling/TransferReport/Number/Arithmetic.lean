import TransferReport.Fault

/-!
# Integers and doubles together

A clock reading, or a count taken from elsewhere, is an integer or a double.  Integers are
unbounded and exact among themselves; beside a double an integer is first rounded to a double,
which fails when it is out of range.
-/

namespace TransferReport

/-- An exact integer or a double. -/
inductive Number where
  | int (n : Int)
  | real (x : Number.Binary64)
  deriving DecidableEq, Inhabited

namespace Number

def inRange (fault : Fault) : Binary64 → Except Fault Binary64
  | .infinity _ => .error fault
  | x => .ok x

def toBinary64 (n : Int) : Except Fault Binary64 :=
  inRange .integerOutOfRange (Binary64.ofInt n)

def sub : Number → Number → Except Fault Number
  | int a, int b => .ok (int (a - b))
  | int a, real y => (toBinary64 a).map fun x => real (x.sub y)
  | real x, int b => (toBinary64 b).map fun y => real (x.sub y)
  | real x, real y => .ok (real (x.sub y))

/-- Whether the number is at most zero; a double that is not a number is not. -/
def nonpositive : Number → Bool
  | int n => n ≤ 0
  | real x => x.nonpositive

/-- The double nearest to the exact quotient of two integers. -/
def intQuotient (a b : Int) : Except Fault Binary64 :=
  inRange .quotientOutOfRange
    (Binary64.ofQuotient (decide (a < 0) != decide (b < 0)) (a.natAbs * Binary64.one) b.natAbs)

/-- An integer divided by a number other than zero. -/
def quotient (a : Int) : Number → Except Fault Binary64
  | int b => intQuotient a b
  | real y => (toBinary64 a).map fun x => x.div y

def integerPart : Binary64 → Except Fault Int
  | .nan => .error .undefinedInteger
  | .infinity _ => .error .infiniteInteger
  | .finite negative units => .ok (Binary64.truncate negative units)

/-- The integer part of a number, toward zero. -/
def truncate : Number → Except Fault Int
  | int n => .ok n
  | real x => integerPart x

end Number

end TransferReport
