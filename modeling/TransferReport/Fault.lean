import TransferReport.Markup.Literal.Mistake
import TransferReport.Markup.Literal.Term
import TransferReport.Text.Numeral
import TransferReport.Value

/-!
# Faults

Everything that can go wrong, by cause.  `message` is the wording of each cause; nothing else in
the library words a fault.  A fault is worded where it arises.  A wording that would quote an integer
too long to be written is never finished, and `raised` is the fault that is met in its place.
-/

namespace TransferReport

inductive Fault where
  /-- A size to be shown is below zero. -/
  | negativeSize (size : Int)
  /-- The transferred part of a size is below zero. -/
  | negativeProgress (progressed : Int)
  /-- More was transferred than there is. -/
  | progressBeyondTotal (progressed total : Int)
  | unknownUnit (symbol : String)
  /-- A number needs more digits than are kept, or has infinitely many. -/
  | tooManyDigits
  /-- The quotient of two integers is beyond the doubles. -/
  | quotientOutOfRange
  /-- An integer is beyond the doubles. -/
  | integerOutOfRange
  /-- An infinite double has no integer part. -/
  | infiniteInteger
  /-- A double that is not a number has no integer part. -/
  | undefinedInteger
  | emptyLocale (value : Value)
  | localeNotText (value : Value)
  | languageNotLetters (language : String)
  | malformedLocale (identifier : String)
  | unknownLocale (identifier : String)
  /-- Settings name no known mode. -/
  | invalidMode (mode : Value)
  /-- A reporter is asked for in no known mode. -/
  | unsupportedMode (mode : Value)
  | unknownRequest (request : Value)
  /-- A count of a problem is no whole number. -/
  | fractionalCount
  /-- A count of a problem has more than 63 bits. -/
  | countOutOfRange
  | chunkNotPositive (chunk : Int)
  /-- A closing tag without its opening tag. -/
  | unmatchedTag (tag : String) (position : Nat)
  /-- A closing tag of the last open tag, with none open. -/
  | nothingToClose (position : Nat)
  /-- A colour lacks its red, green or blue part. -/
  | missingColourPart
  /-- The parameters of a handler hold a text that is no expression. -/
  | invalidLiteral (text parameters : String) (mistake : Markup.Literal.Mistake)
  /-- The parameters of a handler hold an expression that is no literal. -/
  | notLiteral (parameters : String) (reason : Markup.Literal.Unusable)
  /-- A threshold names no level. -/
  | unknownThreshold (name : String)
  /-- A record names no level. -/
  | unknownLevel (name : String)
  | negativeLevel (level : Int)
  /-- A level is of the wrong kind. -/
  | levelKind (value : Value)
  /-- The bar has no task of this number. -/
  | unknownTask (id : Nat)
  /-- An integer has too many digits to be written. -/
  | unwritableInteger
  deriving Inhabited

/-- The classes of faults that a caller can tell apart. -/
inductive ErrorClass where
  | invalidArgument
  | invalidOperation
  | overflow
  | value
  | type
  | unknownLocale
  | markup
  | key
  deriving DecidableEq, Inhabited

def ErrorClass.name : ErrorClass → String
  | invalidArgument => "InvalidArgumentError"
  | invalidOperation => "InvalidOperation"
  | overflow => "OverflowError"
  | value => "ValueError"
  | type => "TypeError"
  | unknownLocale => "UnknownLocaleError"
  | markup => "MarkupError"
  | key => "KeyError"

namespace Fault

def message : Fault → String
  | negativeSize size => "File size cannot be negative: " ++ toString size
  | negativeProgress progressed =>
    "Progressed file size cannot be negative: " ++ toString progressed
  | progressBeyondTotal progressed total =>
    "Progressed file size cannot be bigger than size: " ++ toString progressed ++ " > "
      ++ toString total
  | unknownUnit symbol => "`" ++ symbol ++ "` not in ['B', 'kB', 'MB', 'GB']"
  | tooManyDigits => "[<class 'decimal.InvalidOperation'>]"
  | quotientOutOfRange => "integer division result too large for a float"
  | integerOutOfRange => "int too large to convert to float"
  | infiniteInteger => "cannot convert float infinity to integer"
  | undefinedInteger => "cannot convert float NaN to integer"
  | emptyLocale value =>
    "Empty locale identifier value: " ++ value.quoted
      ++ "\n\nIf you didn't explicitly pass an empty value to a Babel function, "
      ++ "this could be caused by there being no suitable locale environment variables "
      ++ "for the API you tried to use."
  | localeNotText value => "Unexpected value for identifier: " ++ value.quoted
  | languageNotLetters language => "expected only letters, got " ++ Text.quoted language
  | malformedLocale identifier =>
    Text.quoted identifier ++ " is not a valid locale identifier"
  | unknownLocale identifier => "unknown locale " ++ Text.quoted identifier
  | invalidMode mode => mode.quoted ++ " not in ('console', 'log', 'quiet')"
  | unsupportedMode mode => mode.quoted ++ " not in (\"console\", \"log\", \"quiet\")"
  | unknownRequest request => request.quoted ++ " is not a valid RequestType"
  | fractionalCount => "'float' object cannot be interpreted as an integer"
  | countOutOfRange => "cannot fit 'int' into an index-sized integer"
  | chunkNotPositive chunk => "chunk must be positive: " ++ toString chunk
  | unmatchedTag tag position =>
    "closing tag '" ++ tag ++ "' at position " ++ toString position
      ++ " doesn't match any open tag"
  | nothingToClose position =>
    "closing tag '[/]' at position " ++ toString position ++ " has nothing to close"
  | missingColourPart => "invalid literal for int() with base 10: ''"
  | invalidLiteral text parameters mistake =>
    "error parsing " ++ Text.quoted text ++ " in " ++ Text.quoted parameters ++ "; "
      ++ mistake.message
  | notLiteral parameters reason =>
    "error parsing " ++ Text.quoted parameters ++ "; " ++ reason.message
  | unknownThreshold name =>
    "`" ++ name ++ "` not in "
      ++ "['TRACE', 'DEBUG', 'INFO', 'SUCCESS', 'WARNING', 'ERROR', 'CRITICAL']"
  | unknownLevel name => "Level '" ++ name ++ "' does not exist"
  | negativeLevel level =>
    "Invalid level value, it should be a positive integer, not: " ++ toString level
  | levelKind value =>
    "Invalid level, it should be an integer or a string, not: '" ++ value.kind ++ "'"
  | unknownTask id => toString id
  | unwritableInteger =>
    "Exceeds the limit (" ++ toString Text.digitLimit ++ " digits) for integer string conversion; "
      ++ "use sys.set_int_max_str_digits() to increase the limit"

def errorClass : Fault → ErrorClass
  | negativeSize _ | negativeProgress _ | progressBeyondTotal _ _ | unknownUnit _ =>
    .invalidArgument
  | tooManyDigits => .invalidOperation
  | quotientOutOfRange | integerOutOfRange | infiniteInteger => .overflow
  | emptyLocale (.text _) => .value
  | emptyLocale _ | localeNotText _ | levelKind _ | fractionalCount => .type
  | unknownLocale _ => .unknownLocale
  | unmatchedTag _ _ | nothingToClose _ | invalidLiteral _ _ _ | notLiteral _ _ => .markup
  | unknownThreshold _ | unknownTask _ => .key
  | undefinedInteger | languageNotLetters _ | malformedLocale _ | invalidMode _
  | unsupportedMode _ | unknownRequest _ | chunkNotPositive _ | unknownLevel _ | negativeLevel _
  | missingColourPart | countOutOfRange | unwritableInteger => .value

/-- The integers from outside that the wording quotes. -/
def integers : Fault → List Int
  | negativeSize size => [size]
  | negativeProgress progressed => [progressed]
  | progressBeyondTotal progressed total => [progressed, total]
  | emptyLocale value | localeNotText value | invalidMode value | unsupportedMode value
  | unknownRequest value => value.integers
  | chunkNotPositive chunk => [chunk]
  | negativeLevel level => [level]
  | _ => []

/-- The fault that is met where a fault arises. -/
def raised (fault : Fault) : Fault :=
  if fault.integers.all Text.isWritable then fault else unwritableInteger

theorem raised_of_unwritable {fault : Fault} {n : Int} (quoted : n ∈ fault.integers)
    (h : ¬ Text.isWritable n) : fault.raised = unwritableInteger :=
  if_neg fun writable => h (List.all_eq_true.1 writable n quoted)

theorem errorClass_raised (fault : Fault) :
    fault.raised.errorClass =
      if fault.integers.all Text.isWritable then fault.errorClass else .value := by
  unfold raised
  split <;> rfl

end Fault

end TransferReport
