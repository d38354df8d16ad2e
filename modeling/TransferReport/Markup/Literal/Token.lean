import TransferReport.Markup.Literal.Mistake
import TransferReport.Text.Word

/-!
# Tokens of a literal

A literal is cut into names, numbers, texts and operators; blanks and comments separate them.
Brackets are matched here already, so that a closing bracket without its opening one is a mistake
before any grammar is.  The tokens end with a mark that tells how the text ends: completely, inside
a bracket, or at a backslash that does not stand at the end of its line.
-/

namespace TransferReport.Markup.Literal

/-- How a text ends. -/
inductive Stop where
  | complete
  | unclosed (opening : Char)
  | backslash
  deriving DecidableEq, Inhabited

inductive Token where
  | name (text : String)
  /-- A number; `digits` counts the digits of a decimal integer other than zero. -/
  | number (isImaginary : Bool) (digits : Nat)
  | text (isBytes isFormatted isAscii : Bool)
  | op (text : String)
  | newline
  /-- Blanks at the beginning of a line after the first one. -/
  | indent
  | finish (stop : Stop)
  deriving DecidableEq, Inhabited

/-- A character that may stand in a name or be meant for one. -/
def isNameChar (c : Char) : Bool :=
  c.isAlphanum || c = '_' || 0x80 ≤ c.toNat

def hasWord (s : List Char) (word : String) : Bool :=
  word.toList.isPrefixOf s && !(s.drop word.length).head?.any isNameChar

/-- Whether one of the words stands at the front that may follow a number without a blank between;
some of them may run into a name. -/
def continuesAfterNumber (s : List Char) : Bool :=
  (["and", "else", "for", "not", "or"].any fun word => hasWord s word)
    || ["if", "in", "is"].any fun word => word.toList.isPrefixOf s

/-- A number must not run into a name that begins with an ASCII character. -/
def endNumber (kind : String) (s : List Char) : Except Mistake (List Char) :=
  if continuesAfterNumber s then .ok s
  else if s.head?.any fun c => c.toNat < 0x80 && isNameChar c then .error (.number kind)
  else .ok s

/-- What follows decimal digits, with single underscores between them. -/
def afterDigits : List Char → Except Mistake (List Char)
  | [] => .ok []
  | '_' :: c :: cs => if c.isDigit then afterDigits cs else .error (.number "decimal")
  | c :: cs =>
    if c.isDigit then afterDigits cs
    else if c = '_' then .error (.number "decimal") else .ok (c :: cs)

def afterZeros : List Char → Except Mistake (List Char)
  | '0' :: cs => afterZeros cs
  | '_' :: '0' :: cs => afterZeros cs
  | '_' :: cs => if cs.head?.any Char.isDigit then .ok cs else .error (.number "decimal")
  | cs => .ok cs

/-- The end of a decimal number after its digits: whether it is imaginary, and what follows. -/
def endDecimal (s : List Char) : Except Mistake (Bool × List Char) :=
  match s with
  | c :: cs =>
    if c = 'j' || c = 'J' then (endNumber "imaginary" cs).map (true, ·)
    else (endNumber "decimal" s).map (false, ·)
  | [] => .ok (false, [])

def readPower (s : List Char) : Except Mistake (Bool × List Char) :=
  match s with
  | e :: sign :: cs =>
    if e = 'e' || e = 'E' then
      if sign = '+' || sign = '-' then
        if cs.head?.any Char.isDigit then (afterDigits cs).bind endDecimal
        else .error (.number "decimal")
      else if sign.isDigit then (afterDigits (sign :: cs)).bind endDecimal
      else (endNumber "decimal" s).map (false, ·)
    else endDecimal s
  | _ => endDecimal s

def readFraction (s : List Char) : Except Mistake (Bool × List Char) :=
  match s with
  | '.' :: cs =>
    if cs.head?.any Char.isDigit then (afterDigits cs).bind readPower else readPower cs
  | _ => readPower s

/-- What follows the digits of a number in a base, of which one is missing when `isMissing`
holds. -/
def afterBaseDigits (kind : String) (isBaseDigit : Char → Bool) (isMissing : Bool) :
    List Char → Except Mistake (List Char)
  | [] => if isMissing then .error (.number kind) else .ok []
  | c :: cs =>
    if isBaseDigit c then afterBaseDigits kind isBaseDigit false cs
    else if c = '_' && !(cs.head? = some '_') then afterBaseDigits kind isBaseDigit true cs
    else if c.isDigit then .error (.digit c kind)
    else if isMissing || c = '_' then .error (.number kind)
    else endNumber kind (c :: cs)

def isHexDigit (c : Char) : Bool :=
  c.isDigit || ('a' ≤ c && c ≤ 'f') || ('A' ≤ c && c ≤ 'F')

/-- Reads a number: whether it is imaginary, and what follows it. -/
def readNumber (s : List Char) : Except Mistake (Bool × List Char) :=
  match s with
  | '0' :: c :: cs =>
    if c = 'x' || c = 'X' then
      (afterBaseDigits "hexadecimal" isHexDigit true cs).map (false, ·)
    else if c = 'o' || c = 'O' then
      (afterBaseDigits "octal" (fun c => '0' ≤ c && c ≤ '7') true cs).map (false, ·)
    else if c = 'b' || c = 'B' then
      (afterBaseDigits "binary" (fun c => c = '0' || c = '1') true cs).map (false, ·)
    else do
      let rest ← afterZeros (c :: cs)
      let after ← afterDigits rest
      let c := after.head?.getD ' '
      if rest.head?.any Char.isDigit && !(['.', 'e', 'E', 'j', 'J'].contains c) then
        .error .leadingZeros
      else readFraction after
  | _ => do
    let after ← afterDigits s
    readFraction after

/-- The count of digits of a decimal integer other than zero, and zero for every other number. -/
def integerDigits (number : List Char) : Nat :=
  let digits := number.filter (· != '_')
  if digits.all Char.isDigit && digits.head? ≠ some '0' then digits.length else 0

def closeLine (quote : Char) (line : Nat) :
    List Char → Except Mistake (List Char × Nat × List Char)
  | [] => .error (.unterminated false line)
  | '\\' :: c :: cs =>
    (closeLine quote (if c = '\n' then line + 1 else line) cs).map fun (text, after) =>
      ('\\' :: c :: text, after)
  | c :: cs =>
    if c = quote then .ok ([], line, cs)
    else if c = '\n' then .error (.unterminated false line)
    else (closeLine quote line cs).map fun (text, after) => (c :: text, after)

/-- The text and what follows the three closing quotes of a text that may have several lines. -/
def closeLines (quote : Char) (line : Nat) :
    List Char → Except Mistake (List Char × Nat × List Char)
  | [] => .error (.unterminated true line)
  | '\\' :: c :: cs =>
    (closeLines quote (if c = '\n' then line + 1 else line) cs).map fun (text, after) =>
      ('\\' :: c :: text, after)
  | c :: cs =>
    if c = quote && [quote, quote].isPrefixOf cs then .ok ([], line, cs.drop 2)
    else
      (closeLines quote (if c = '\n' then line + 1 else line) cs).map fun (text, after) =>
        (c :: text, after)

def readText (line : Nat) (s : List Char) : Except Mistake (List Char × Nat × List Char) :=
  match s with
  | a :: b :: c :: cs =>
    if a = b && b = c then closeLines a line cs
    else if a = b then .ok ([], line, c :: cs)
    else closeLine a line (b :: c :: cs)
  | [a, b] => if a = b then .ok ([], line, []) else closeLine a line [b]
  | _ => .error (.unterminated false line)

def textMarks : List String := ["", "b", "r", "u", "f", "br", "rb", "fr", "rf"]

/-! ## Tokens -/

def operators : List String :=
  ["**=", "//=", ">>=", "<<=", "...", "!=", "%=", "&=", "**", "*=", "+=", "-=", "->", "//", "/=",
   ":=", "<<", "<=", "<>", "==", ">=", ">>", "@=", "^=", "|="]

def readOperator (c : Char) (cs : List Char) : String × List Char :=
  match operators.find? fun op => op.toList.isPrefixOf (c :: cs) with
  | some op => (op, (c :: cs).drop op.length)
  | none => (String.singleton c, cs)

def opening? (c : Char) : Option Char :=
  if c = ')' then some '(' else if c = '}' then some '{' else if c = ']' then some '[' else none

def isOpening (c : Char) : Bool := c = '(' || c = '{' || c = '['

/-- The open brackets after a character, the last one first, each with its line. -/
def bracket (line : Nat) (opened : List (Char × Nat)) (c : Char) :
    Except Mistake (List (Char × Nat)) :=
  if isOpening c then .ok ((c, line) :: opened)
  else
    match opening? c, opened with
    | none, _ => .ok opened
    | some _, [] => .error (.unmatched c)
    | some opening, (last, lastLine) :: rest =>
      if opening = last then .ok rest
      else if lastLine = line then .error (.mismatched c last)
      else .error (.mismatchedFrom c last lastLine)

def strayCharacter (c : Char) : Mistake :=
  if Text.isPrintable c then .character c else .hiddenCharacter c

def nameToken (s : List Char) : Except Mistake Token :=
  match Text.strayInIdentifier? s with
  | some c => .error (strayCharacter c)
  | none => .ok (.name (String.ofList s))

def isIndented (s : List Char) : Bool :=
  let rest := s.dropWhile fun c => c = ' ' || c = '\t'
  rest.length < s.length && !rest.isEmpty && rest.head? ≠ some '\n' && rest.head? ≠ some '#'

def stopOf (opened : List (Char × Nat)) : Stop :=
  match opened with
  | [] => .complete
  | (c, _) :: _ => .unclosed c

/-- The tokens of a text, at most `fuel` of them; `isFresh` tells that no token stands before on the
line. -/
def tokensFrom (fuel line : Nat) (opened : List (Char × Nat)) (isFresh : Bool) (s : List Char) :
    Except Mistake (List Token) :=
  match fuel, s with
  | 0, _ => .ok [.finish .complete]
  | _, [] => .ok [.finish (stopOf opened)]
  | fuel + 1, c :: cs =>
    if c = ' ' || c = '\t' || c = '\x0c' then tokensFrom fuel line opened isFresh cs
    else if c = '#' then tokensFrom fuel line opened isFresh (cs.dropWhile (· != '\n'))
    else if c = '\n' then
      if isFresh || !opened.isEmpty then tokensFrom fuel (line + 1) opened isFresh cs
      else do
        let rest ← tokensFrom fuel (line + 1) opened true cs
        pure (.newline :: if isIndented cs then .indent :: rest else rest)
    else if c = '\\' then
      match cs with
      | '\n' :: cs => tokensFrom fuel (line + 1) opened isFresh cs
      | _ => .ok [.finish .backslash]
    else if c.isDigit || (c = '.' && cs.head?.any Char.isDigit) then do
      let (isImaginary, after) ← readNumber s
      let rest ← tokensFrom fuel line opened false after
      pure (.number isImaginary (integerDigits (s.take (s.length - after.length))) :: rest)
    else
      let word := s.takeWhile isNameChar
      let after := s.drop word.length
      let mark := String.ofList (word.map Char.toLower)
      if (after.head? = some '"' || after.head? = some '\'') && textMarks.contains mark then do
        let (text, line, after) ← readText line after
        let rest ← tokensFrom fuel line opened false after
        pure (.text (mark.contains 'b') (mark.contains 'f') (text.all fun c => c.toNat < 0x80)
          :: rest)
      else if word.isEmpty then
        if Text.isPrintable c then do
          let (op, after) := readOperator c cs
          let opened ← if op.length = 1 then bracket line opened c else pure opened
          let rest ← tokensFrom fuel line opened false after
          pure (.op op :: rest)
        else .error (.hiddenCharacter c)
      else do
        let token ← nameToken word
        let rest ← tokensFrom fuel line opened false after
        pure (token :: rest)

/-- The text with every line end written as one line feed. -/
def lines : List Char → List Char
  | [] => []
  | '\r' :: '\n' :: cs => '\n' :: lines cs
  | c :: cs => (if c = '\r' then '\n' else c) :: lines cs

def tokens (s : List Char) : Except Mistake (List Token) :=
  if s.contains (Char.ofNat 0) then .error .nullCharacter
  else tokensFrom (s.length + 1) 1 [] true (lines s)

end TransferReport.Markup.Literal
