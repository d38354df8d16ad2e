import TransferReport.Number.Arithmetic
import TransferReport.Text.Blank
import TransferReport.Text.Case.Basic
import TransferReport.Text.Digit

/-!
# Numerals on the command line

A count is written as an integer with an optional sign, blanks around it, and underscores between
its digits; in base sixteen, eight or two after `0x`, `0o` or `0b`; or as a decimal number with a
point, which is read as a double and rounded to the nearest integer.

A word that begins with a hyphen may still be a number.  `isNumeral` accepts more than the counts:
real and complex numbers with their names for the infinite and the undefined, and ranges of integers
with colons between their bounds.
-/

namespace TransferReport.CommandLine

/-- The blanks that may stand around a number: all but the four separators. -/
def isNumeralBlank (c : Char) : Bool :=
  Text.isBlank c && !(0x1C ≤ c.toNat && c.toNat ≤ 0x1F)

def trimNumeralEnd (s : List Char) : List Char :=
  (s.reverse.dropWhile isNumeralBlank).reverse

def trimNumeral (s : List Char) : List Char :=
  trimNumeralEnd (s.dropWhile isNumeralBlank)

def digitValue? (base : Nat) (c : Char) : Option Nat :=
  let value? := match Text.decimalValue? c with
    | some value => some value
    | none => if 'a' ≤ c && c ≤ 'f' then some (c.toNat - 'a'.toNat + 10) else none
  value?.filter fun value => value < base

/-- The value of digits with single underscores between them, after a value that has been read. -/
def readDigits? (base value : Nat) : List Char → Option Nat
  | [] => some value
  | '_' :: c :: cs =>
    match digitValue? base c with
    | some digit => readDigits? base (value * base + digit) cs
    | none => none
  | c :: cs =>
    match digitValue? base c with
    | some digit => readDigits? base (value * base + digit) cs
    | none => none

def natural? (base : Nat) : List Char → Option Nat
  | [] => none
  | '_' :: _ => none
  | cs => readDigits? base 0 cs

/-- The value of digits that may also have an underscore in front, as after the mark of a base. -/
def naturalAfterMark? (base : Nat) : List Char → Option Nat
  | '_' :: cs => natural? base cs
  | cs => natural? base cs

def splitSign : List Char → Bool × List Char
  | '-' :: cs => (true, cs)
  | '+' :: cs => (false, cs)
  | cs => (false, cs)

def withSign (negative : Bool) (n : Nat) : Int :=
  if negative then -(n : Int) else n

def decimalInteger? (s : List Char) : Option Int :=
  let (negative, digits) := splitSign (trimNumeral s)
  if Text.digitLimit < (digits.filter (· != '_')).length then none
  else (natural? 10 digits).map (withSign negative)

def markedBase? : List Char → Option (Nat × List Char)
  | '0' :: 'x' :: cs => some (16, cs)
  | '0' :: 'o' :: cs => some (8, cs)
  | '0' :: 'b' :: cs => some (2, cs)
  | _ => none

structure DecimalNumeral where
  negative : Bool
  coefficient : Nat
  exponent : Int

def power? : List Char → Option Int
  | [] => some 0
  | c :: cs =>
    if c = 'e' || c = 'E' then
      let (negative, digits) := splitSign cs
      (natural? 10 digits).map (withSign negative)
    else none

def part? (digits : List Char) : Option Nat :=
  if digits.isEmpty then some 0 else natural? 10 digits

def decimal? (s : List Char) : Option DecimalNumeral :=
  let (negative, unsigned) := splitSign (trimNumeral s)
  let mantissa := unsigned.takeWhile fun c => c != 'e' && c != 'E'
  let whole := mantissa.takeWhile (· != '.')
  let fraction := (mantissa.dropWhile (· != '.')).drop 1
  if whole.isEmpty && fraction.isEmpty then none
  else do
    let power ← power? (unsigned.drop mantissa.length)
    let high ← part? whole
    let low ← part? fraction
    let places := (fraction.filter (· != '_')).length
    pure ⟨negative, high * Nat.pow 10 places + low, power - places⟩

/-- The integer nearest to a decimal number, through the double nearest to it. -/
def DecimalNumeral.round (n : DecimalNumeral) : Except Fault Int :=
  match Number.Binary64.ofDecimal n.negative n.coefficient n.exponent with
  | .finite negative units => .ok (Number.Binary64.round negative units)
  | .infinity _ => .error .infiniteInteger
  | .nan => .error .undefinedInteger

/-- Reads a count; `none` when the text is no count at all. -/
def integer? (token : String) : Option (Except Fault Int) :=
  let s := Text.lower token.toList
  let (negative, unsigned) := splitSign s
  match markedBase? unsigned with
  | some (base, digits) =>
    (naturalAfterMark? base (trimNumeralEnd digits)).map fun n => .ok (withSign negative n)
  | none =>
    if s.contains '.' then (decimal? s).map DecimalNumeral.round
    else (decimalInteger? s).map .ok

/-- Takes the underscores out, each of which must stand between two digits. -/
def withoutUnderscores? (afterDigit : Bool) : List Char → Option (List Char)
  | [] => some []
  | '_' :: c :: cs =>
    if afterDigit && c.isDigit then (withoutUnderscores? true cs).map (c :: ·) else none
  | c :: cs => if c = '_' then none else (withoutUnderscores? c.isDigit cs).map (c :: ·)

/-- A numeral in lower case, with ASCII digits, no underscores and no blanks around it. -/
def plainNumeral? (s : List Char) : Option (List Char) :=
  withoutUnderscores? false <| trimNumeral <| s.map fun c =>
    match Text.decimalValue? c with
    | some value => Text.hexDigit value
    | none => c.toLower

def afterPower (s : List Char) : List Char :=
  match s with
  | 'e' :: cs =>
    let digits := (splitSign cs).2
    if (digits.takeWhile Char.isDigit).isEmpty then s else digits.dropWhile Char.isDigit
  | _ => s

def afterDecimal? (s : List Char) : Option (List Char) :=
  let rest := s.dropWhile Char.isDigit
  match rest with
  | '.' :: cs =>
    if rest.length = s.length && (cs.takeWhile Char.isDigit).isEmpty then none
    else some (afterPower (cs.dropWhile Char.isDigit))
  | _ => if rest.length = s.length then none else some (afterPower rest)

def afterReal? (s : List Char) : Option (List Char) :=
  match (splitSign s).2 with
  | 'i' :: 'n' :: 'f' :: 'i' :: 'n' :: 'i' :: 't' :: 'y' :: cs => some cs
  | 'i' :: 'n' :: 'f' :: cs => some cs
  | 'n' :: 'a' :: 'n' :: cs => some cs
  | unsigned => afterDecimal? unsigned

def afterSign (s : List Char) : List Char :=
  (splitSign s).2

/-- Whether a plain numeral is a real number, an imaginary one, or a real and an imaginary number
with a sign between them.  The unit `j` needs no factor. -/
def isComplex (s : List Char) : Bool :=
  match afterReal? s with
  | none => afterSign s = ['j']
  | some rest =>
    if rest.isEmpty || rest = ['j'] then true
    else if rest.head? = some '+' || rest.head? = some '-' then
      (afterReal? rest).getD (afterSign rest) = ['j']
    else false

def splitColons (s : List Char) : List (List Char) :=
  s.splitOnP (· = ':')

/-- Whether a text is a range: two or three bounds with colons between them, each of which is absent
or an integer. -/
def isRange (s : List Char) : Bool :=
  let bounds := splitColons s
  (bounds.length = 2 || bounds.length = 3)
    && bounds.all fun bound => bound.isEmpty || (decimalInteger? bound).isSome

/-- Whether a word that begins with a hyphen is a number and not an option.  The two characters
`-j` are an option. -/
def isNumeral (token : String) : Bool :=
  let s := token.toList
  let complex := s.length ≠ 2 || !s.any Char.isAlpha
  (complex && ((plainNumeral? s).map isComplex).getD false)
    || (integer? token).isSome || isRange s

def switch? (token : String) : Option Bool :=
  let word := String.ofList (Text.lower token.toList)
  if ["no", "n", "0", "false", "f"].contains word then some false
  else if ["yes", "y", "1", "true", "t"].contains word then some true
  else none

end TransferReport.CommandLine
