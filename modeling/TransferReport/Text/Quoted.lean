import TransferReport.Text.Digit
import TransferReport.Text.Printable

/-!
# Quoted text

A text in a message stands between single quotes, or between double quotes when it holds a single
quote and no double one.  The delimiting quote, the backslash and the characters that cannot be
printed are escaped.
-/

namespace TransferReport.Text

/-- The mark that delimits the quoted form. -/
def quoteMark (s : List Char) : Char :=
  if s.contains '\'' && !s.contains '"' then '"' else '\''

def escape (mark c : Char) : List Char :=
  if c = mark || c = '\\' then ['\\', c]
  else if c = '\n' then ['\\', 'n']
  else if c = '\r' then ['\\', 'r']
  else if c = '\t' then ['\\', 't']
  else if isPrintable c then [c]
  else if c.toNat ≤ 0xFF then '\\' :: 'x' :: hexText 2 c.toNat
  else if c.toNat ≤ 0xFFFF then '\\' :: 'u' :: hexText 4 c.toNat
  else '\\' :: 'U' :: hexText 8 c.toNat

def quote (s : List Char) : List Char :=
  let mark := quoteMark s
  mark :: s.flatMap (escape mark) ++ [mark]

def quoted (s : String) : String :=
  String.ofList (quote s.toList)

end TransferReport.Text
