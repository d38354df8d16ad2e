import TransferReport.Text.Digit
import TransferReport.Text.Numeral

/-!
# Mistakes in literals

What keeps a text from being read as an expression, by cause, with the wording of each cause.
-/

namespace TransferReport.Markup.Literal

inductive Mistake where
  /-- A token stands where the grammar has no place for it. -/
  | misplaced
  | misplacedIndent
  | nullCharacter
  /-- The text ends inside a bracket. -/
  | neverClosed (opening : Char)
  | unmatched (closing : Char)
  | mismatched (closing opening : Char)
  | mismatchedFrom (closing opening : Char) (line : Nat)
  | unterminated (isTriple : Bool) (line : Nat)
  /-- A backslash does not stand at the end of its line. -/
  | afterBackslash
  /-- A number of a kind is not written out, or runs into a name. -/
  | number (kind : String)
  | digit (c : Char) (kind : String)
  | leadingZeros
  /-- A decimal integer has too many digits to be read. -/
  | longInteger (digits : Nat)
  | character (c : Char)
  | hiddenCharacter (c : Char)
  | mixedText
  | wideBytes
  | missingComma
  | missingElse
  /-- A name that used to begin a statement is followed by what it should be applied to. -/
  | missingParentheses (name : String)
  | star
  | starred
  | doubleStarred
  | starredValue
  | missingColon
  | missingValue
  /-- One equals sign after a name. -/
  | assignedName
  /-- One equals sign after another expression. -/
  | assigned (kind : String)
  | assignedExpression (kind : String)
  | assignedArgument
  | assignedConstant (name : String)
  | lateArgument (afterUnpacking : Bool)
  | lateUnpacking
  deriving DecidableEq, Inhabited

/-- The number of a character in at least four hexadecimal digits. -/
def codePoint (c : Char) : String :=
  let width := if c.toNat < 0x10000 then 4 else if c.toNat < 0x100000 then 5 else 6
  String.ofList ('U' :: '+' :: (Text.hexText width c.toNat).map Char.toUpper)

namespace Mistake

def mark (c : Char) : String := String.ofList ['\'', c, '\'']

def message : Mistake → String
  | misplaced => "invalid syntax"
  | misplacedIndent => "unexpected indent"
  | nullCharacter => "source code string cannot contain null bytes"
  | neverClosed opening => mark opening ++ " was never closed"
  | unmatched closing => "unmatched " ++ mark closing
  | mismatched closing opening =>
    "closing parenthesis " ++ mark closing ++ " does not match opening parenthesis "
      ++ mark opening
  | mismatchedFrom closing opening line =>
    "closing parenthesis " ++ mark closing ++ " does not match opening parenthesis "
      ++ mark opening ++ " on line " ++ toString line
  | unterminated isTriple line =>
    "unterminated " ++ (if isTriple then "triple-quoted string" else "string")
      ++ " literal (detected at line " ++ toString line ++ ")"
  | afterBackslash => "unexpected character after line continuation character"
  | number kind => "invalid " ++ kind ++ " literal"
  | digit c kind => "invalid digit " ++ mark c ++ " in " ++ kind ++ " literal"
  | leadingZeros =>
    "leading zeros in decimal integer literals are not permitted; "
      ++ "use an 0o prefix for octal integers"
  | longInteger digits =>
    "Exceeds the limit (" ++ toString Text.digitLimit ++ " digits) for integer string conversion: "
      ++ "value has " ++ toString digits ++ " digits; use sys.set_int_max_str_digits() to increase "
      ++ "the limit - Consider hexadecimal for huge integer literals to avoid decimal conversion "
      ++ "limits."
  | character c => "invalid character " ++ mark c ++ " (" ++ codePoint c ++ ")"
  | hiddenCharacter c => "invalid non-printable character " ++ codePoint c
  | mixedText => "cannot mix bytes and nonbytes literals"
  | wideBytes => "bytes can only contain ASCII literal characters"
  | missingComma => "invalid syntax. Perhaps you forgot a comma?"
  | missingElse => "expected 'else' after 'if' expression"
  | missingParentheses name =>
    "Missing parentheses in call to '" ++ name ++ "'. Did you mean " ++ name ++ "(...)?"
  | star => "Invalid star expression"
  | starred => "cannot use starred expression here"
  | doubleStarred => "cannot use double starred expression here"
  | starredValue => "cannot use a starred expression in a dictionary value"
  | missingColon => "':' expected after dictionary key"
  | missingValue => "expression expected after dictionary key and ':'"
  | assignedName => "invalid syntax. Maybe you meant '==' or ':=' instead of '='?"
  | assigned kind => "cannot assign to " ++ kind ++ " here. Maybe you meant '==' instead of '='?"
  | assignedExpression kind => "cannot use assignment expressions with " ++ kind
  | assignedArgument => "expression cannot contain assignment, perhaps you meant \"==\"?"
  | assignedConstant name => "cannot assign to " ++ name
  | lateArgument afterUnpacking =>
    "positional argument follows keyword argument" ++ (if afterUnpacking then " unpacking" else "")
  | lateUnpacking => "iterable argument unpacking follows keyword argument unpacking"

end Mistake

end TransferReport.Markup.Literal
