import TransferReport.Markup.Literal.Term
import TransferReport.Markup.Literal.Token

/-!
# Expressions

Reads the tokens of a literal by the grammar of expressions with names, calls and attributes; it
has no function expressions and nothing that is spread over a sequence.  A reading takes as much
from the front of the tokens as it can.

A text is read twice.  The first reading knows the grammar only.  When it does not reach the end,
the second one names the mistake that most likely led there: two expressions without a comma, one
equals sign in place of two, a condition without its other branch.  The end of the text inside a
bracket is a mistake of its own as soon as a reading looks at it.
-/

namespace TransferReport.Markup.Literal

structure Mode where
  /-- Mistakes are named. -/
  isNaming : Bool
  /-- The expression stands in a bracket. -/
  isInside : Bool
  deriving Inhabited

def Mode.plain (m : Mode) : Mode := { m with isNaming := false }

def Mode.inside (m : Mode) : Mode := { m with isInside := true }

/-- What has been read from the front of the tokens, and the tokens after it. -/
abbrev Front (α : Type) := α × List Token

/-- The mistake of a text that ends at the front of the tokens, unless it ends there completely. -/
def stop? : List Token → Option Mistake
  | .finish (.unclosed opening) :: _ => some (.neverClosed opening)
  | .finish .backslash :: _ => some .afterBackslash
  | _ => none

/-- The mistake of tokens for the first of which there is no place. -/
def misplacedAt (ts : List Token) : Mistake := (stop? ts).getD .misplaced

def keywords : List String :=
  ["False", "None", "True", "and", "as", "assert", "async", "await", "break", "class", "continue",
   "def", "del", "elif", "else", "except", "finally", "for", "from", "global", "if", "import", "in",
   "is", "lambda", "nonlocal", "not", "or", "pass", "raise", "return", "try", "while", "with",
   "yield"]

def constants : List String := ["False", "None", "True"]

def softKeywords : List String := ["_", "case", "match"]

/-- Names that used to begin a statement. -/
def formerStatements : List String := ["print", "exec"]

def isName (s : String) : Bool := !keywords.contains s

def isOp (ts : List Token) (op : String) : Bool := ts.head? = some (.op op)

def isWord (ts : List Token) (word : String) : Bool := ts.head? = some (.name word)

def arithmetic : List String :=
  ["+", "-", "*", "/", "//", "%", "@", "**", "&", "|", "^", "<<", ">>"]

def relations : List String := ["==", "!=", "<", "<=", ">", ">="]

/-- An expression, and whether it has no comparison, no logical operator and no condition at the
top. -/
structure Operand where
  term : Term
  isSum : Bool
  deriving Inhabited

def combine (op : String) (left right : Term) : Term :=
  if op = "+" || op = "-" then .sum left right else .other "expression"

inductive Given where
  | positional
  | named
  | unpacked
  deriving DecidableEq

def Given.afterName : Given → Given
  | unpacked => unpacked
  | _ => named

/-- Reads texts that follow each other as one text; bytes are written in ASCII and do not mix with
other texts. -/
def texts (isBytes isFormatted : Bool) : List Token → Except Mistake (Front Term)
  | .text bytes formatted isAscii :: ts =>
    if bytes && !isAscii then .error .wideBytes
    else if bytes = isBytes then texts isBytes (isFormatted || formatted) ts
    else .error .mixedText
  | ts => .ok (.text isFormatted, ts)

/-- Whether the tokens begin with a name and a text, or with a name that may be a keyword. -/
def mayBeStatement : List Token → Bool
  | .name s :: .text _ _ _ :: _ => isName s
  | .name s :: _ => softKeywords.contains s
  | _ => false

/-- The name at the front that another expression than a call may be meant to follow. -/
def appliedName? : List Token → Option String
  | .name s :: ts => if isName s && !isOp ts "(" then some s else none
  | _ => none

def isAssignedName : List Token → Bool
  | .name s :: .op "=" :: _ => isName s
  | _ => false

def beginsConstant : List Token → Bool
  | .name s :: _ => constants.contains s
  | _ => false

/-- The result, or what stands for it when there is no place for a token. -/
def orElse {α : Type} (result other : Except Mistake α) : Except Mistake α :=
  match result with
  | .error .misplaced => other
  | result => result

/-- The mistake met by a reading that goes unused, apart from a misplaced token. -/
def mistakeOf {α : Type} : Except Mistake α → Except Mistake Unit
  | .error .misplaced => .ok ()
  | .error mistake => .error mistake
  | .ok _ => .ok ()

mutual

def atom (fuel : Nat) (m : Mode) (ts : List Token) : Except Mistake (Front Term) :=
  match fuel, ts with
  | _ + 1, .name s :: after =>
    if constants.contains s then .ok (.constant s, after)
    else if isName s then .ok (.name s, after)
    else .error .misplaced
  | _ + 1, .number isImaginary digits :: after =>
    if Text.digitLimit < digits then .error (.longInteger digits)
    else .ok (.number isImaginary, after)
  | _ + 1, .text isBytes _ _ :: _ => texts isBytes false ts
  | _ + 1, .op "..." :: after => .ok (.constant "...", after)
  | fuel + 1, .op "(" :: after => parenthesised fuel m.inside after
  | fuel + 1, .op "\x7b" :: after => braced fuel m.inside after
  | _, ts => .error (misplacedAt ts)

/-- Reads attributes and calls after an expression.  A brace in their place may be meant for the
beginning of a sequence. -/
def trailers (fuel : Nat) (m : Mode) (t : Term) (ts : List Token) : Except Mistake (Front Term) :=
  match fuel, ts with
  | fuel + 1, .op "." :: .name s :: after =>
    if isName s then trailers fuel m (.other "attribute") after else .ok (t, ts)
  | _ + 1, .op "." :: after =>
    match stop? after with
    | some mistake => .error mistake
    | none => .ok (t, ts)
  | fuel + 1, .op "(" :: after =>
    match arguments fuel m.inside .positional after with
    | .ok (_, rest) => trailers fuel m (.call t (isOp after ")")) rest
    | .error .misplaced => .ok (t, ts)
    | .error mistake => .error mistake
  | fuel + 1, .op "\x7b" :: after => do
    if m.isNaming then mistakeOf (items fuel m.inside "\x7d" after)
    pure (t, ts)
  | _, ts =>
    match stop? ts with
    | some mistake => .error mistake
    | none => .ok (t, ts)

def unary (fuel : Nat) (m : Mode) (ts : List Token) : Except Mistake (Front Term) :=
  match fuel with
  | 0 => .error (misplacedAt ts)
  | fuel + 1 =>
    if isOp ts "+" || isOp ts "-" then do
      let (t, rest) ← unary fuel m ts.tail
      pure (.signed t, rest)
    else if isOp ts "~" then do
      let (_, rest) ← unary fuel m ts.tail
      pure (.other "expression", rest)
    else do
      let (t, rest) ← atom fuel m ts
      trailers fuel m t rest

def sumAfter (fuel : Nat) (m : Mode) (left : Term) (ts : List Token) :
    Except Mistake (Front Term) :=
  match fuel, ts with
  | fuel + 1, .op op :: after =>
    if arithmetic.contains op then
      match unary fuel m after with
      | .ok (right, rest) => sumAfter fuel m (combine op left right) rest
      | .error .misplaced => .ok (left, ts)
      | .error mistake => .error mistake
    else .ok (left, ts)
  | _, ts => .ok (left, ts)

def sum (fuel : Nat) (m : Mode) (ts : List Token) : Except Mistake (Front Term) :=
  match fuel with
  | 0 => .error (misplacedAt ts)
  | fuel + 1 => do
    let (t, rest) ← unary fuel m ts
    sumAfter fuel m t rest

def comparisonAfter (fuel : Nat) (m : Mode) (left : Operand) (ts : List Token) :
    Except Mistake (Front Operand) :=
  match fuel with
  | 0 => .ok (left, ts)
  | fuel + 1 =>
    let against (after : List Token) : Except Mistake (Front Operand) :=
      match sum fuel m after with
      | .ok (_, rest) => comparisonAfter fuel m ⟨.other "comparison", false⟩ rest
      | .error .misplaced => .ok (left, ts)
      | .error mistake => .error mistake
    match ts with
    | .op op :: after => if relations.contains op then against after else .ok (left, ts)
    | .name "in" :: after => against after
    | .name "is" :: after => against (if isWord after "not" then after.tail else after)
    | .name "not" :: after =>
      if isWord after "in" then against after.tail
      else
        match stop? after with
        | some mistake => .error mistake
        | none => .ok (left, ts)
    | _ => .ok (left, ts)

def negation (fuel : Nat) (m : Mode) (ts : List Token) : Except Mistake (Front Operand) :=
  match fuel with
  | 0 => .error (misplacedAt ts)
  | fuel + 1 =>
    if isWord ts "not" then do
      let (_, rest) ← negation fuel m ts.tail
      pure (⟨.other "expression", false⟩, rest)
    else do
      let (t, rest) ← sum fuel m ts
      comparisonAfter fuel m ⟨t, true⟩ rest

def disjunctionAfter (fuel : Nat) (m : Mode) (left : Operand) (ts : List Token) :
    Except Mistake (Front Operand) :=
  match fuel with
  | 0 => .ok (left, ts)
  | fuel + 1 =>
    if isWord ts "and" || isWord ts "or" then
      match negation fuel m ts.tail with
      | .ok (_, rest) => disjunctionAfter fuel m ⟨.other "expression", false⟩ rest
      | .error .misplaced => .ok (left, ts)
      | .error mistake => .error mistake
    else .ok (left, ts)

def disjunction (fuel : Nat) (m : Mode) (ts : List Token) : Except Mistake (Front Operand) :=
  match fuel with
  | 0 => .error (misplacedAt ts)
  | fuel + 1 => do
    let (left, rest) ← negation fuel m ts
    disjunctionAfter fuel m left rest

/-- Reads the condition and the other branch of an expression, if they follow it. -/
def conditionAfter (fuel : Nat) (m : Mode) (isRead : Bool) (left : Operand) (ts : List Token) :
    Except Mistake (Front Operand) :=
  match fuel with
  | 0 => .ok (left, ts)
  | fuel + 1 =>
    if isWord ts "if" then
      orElse (do
        let (_, after) ← disjunction fuel (if isRead then m.plain else m) ts.tail
        if isWord after "else" then
          let (_, rest) ← expression fuel m after.tail
          pure (⟨.other "conditional expression", false⟩, rest)
        else if m.isNaming && !isOp after ":" then .error .missingElse
        else .error .misplaced) (.ok (left, ts))
    else .ok (left, ts)

def expression (fuel : Nat) (m : Mode) (ts : List Token) : Except Mistake (Front Operand) :=
  match fuel with
  | 0 => .error (misplacedAt ts)
  | fuel + 1 => do
    let (left, rest) ← disjunction fuel m ts
    expressionAfter fuel m false ts left rest

/-- Completes an expression that begins with an operand that has been read.  What follows it without
an operator between is named as a mistake.  Where all of it has been read by the grammar only
before, as `isRead` tells, mistakes in its operands are not named any more. -/
def expressionAfter (fuel : Nat) (m : Mode) (isRead : Bool) (ts : List Token) (left : Operand)
    (rest : List Token) : Except Mistake (Front Operand) :=
  match fuel with
  | 0 => .ok (left, rest)
  | fuel + 1 => do
    let isFormer := match left.term with
      | .name s => formerStatements.contains s
      | _ => false
    if m.isNaming && !mayBeStatement ts then
      match expression fuel m.plain rest with
      | .ok _ => if m.isInside && !isFormer then throw .missingComma
      | result => mistakeOf result
    let completed ← conditionAfter fuel m isRead left rest
    if m.isNaming then
      match appliedName? ts with
      | none => pure ()
      | some name =>
        let isAlone := rest.length + 1 = ts.length && !mayBeStatement ts
        match applied fuel m (isRead || isAlone) ts.tail with
        | .ok _ => if formerStatements.contains name then throw (.missingParentheses name)
        | result => mistakeOf result
    pure completed

/-- Reads what a name may be applied to without parentheses. -/
def applied (fuel : Nat) (m : Mode) (isRead : Bool) (ts : List Token) :
    Except Mistake (Front Term) :=
  match fuel with
  | 0 => .error (misplacedAt ts)
  | fuel + 1 => do
    let operandMode := if isRead then m.plain else m
    let (first, rest) ←
      if isOp ts "*" then sum fuel operandMode ts.tail
      else do
        let (left, rest) ← disjunction fuel operandMode ts
        let (operand, rest) ← expressionAfter fuel m isRead ts left rest
        pure (operand.term, rest)
    expressionsAfter fuel m [first] rest

/-- Reads an expression that may be given a name, and names the mistake of one that is given a
value. -/
def named (fuel : Nat) (m : Mode) (ts : List Token) : Except Mistake (Front Operand) :=
  match fuel with
  | 0 => .error (misplacedAt ts)
  | fuel + 1 => do
    if (appliedName? ts).isSome && isOp ts.tail ":=" then
      let (_, rest) ← expression fuel m ts.tail.tail
      pure (⟨.other "named expression", false⟩, rest)
    else
      let (left, rest) ← expression fuel m ts
      namedAfter fuel m ts left rest

/-- Completes an expression that must not be given a name or a value. -/
def namedAfter (fuel : Nat) (m : Mode) (ts : List Token) (left : Operand) (rest : List Token) :
    Except Mistake (Front Operand) :=
  match fuel with
  | 0 => .error .misplaced
  | fuel + 1 =>
    if isOp rest ":=" then
      if m.isNaming then do
        let _ ← expression fuel m rest.tail
        .error (.assignedExpression left.term.kind)
      else .error .misplaced
    else if m.isNaming && isOp rest "=" && left.isSum then
      let isTuple := match atom fuel m.plain ts with
        | .ok (.tuple _, _) => true
        | _ => false
      if !isAssignedName ts && (beginsConstant ts || isTuple) then .ok (left, rest)
      else
        match sum fuel m rest.tail with
        | .ok (_, after) =>
          if isOp after "=" || isOp after ":=" then .ok (left, rest)
          else .error (if isAssignedName ts then .assignedName else .assigned left.term.kind)
        | .error .misplaced => .ok (left, rest)
        | .error mistake => .error mistake
    else .ok (left, rest)

def item (fuel : Nat) (m : Mode) (ts : List Token) : Except Mistake (Front Term) :=
  match fuel with
  | 0 => .error (misplacedAt ts)
  | fuel + 1 =>
    if isOp ts "*" then (sum fuel m ts.tail).map fun (_, rest) => (.starred, rest)
    else (named fuel m ts).map fun (operand, rest) => (operand.term, rest)

/-- Reads the items of a bracket up to its end: the items, and whether a comma stands between or
after them. -/
def items (fuel : Nat) (m : Mode) (closing : String) (ts : List Token) :
    Except Mistake (Front (List Term × Bool)) :=
  match fuel with
  | 0 => .error (misplacedAt ts)
  | fuel + 1 =>
    orElse (do
      let (first, rest) ← item fuel m ts
      itemsAfter fuel m closing [first] false rest)
    (if isOp ts "*" && m.isNaming then starred fuel m closing ts.tail else .error .misplaced)

def itemsAfter (fuel : Nat) (m : Mode) (closing : String) (before : List Term) (hasComma : Bool)
    (ts : List Token) : Except Mistake (Front (List Term × Bool)) :=
  match fuel with
  | 0 => .error (misplacedAt ts)
  | fuel + 1 =>
    if isOp ts closing then
      if closing = ")" && !hasComma && before.any Term.isStarred then .error .misplaced
      else .ok ((before.reverse, hasComma), ts.tail)
    else if isOp ts "," then
      if isOp ts.tail closing then .ok ((before.reverse, true), ts.tail.tail)
      else do
        let (t, rest) ← item fuel m ts.tail
        itemsAfter fuel m closing (t :: before) true rest
    else .error (misplacedAt ts)

/-- Names the mistake of a star at the beginning of a bracket. -/
def starred (fuel : Nat) (m : Mode) (closing : String) (ts : List Token) :
    Except Mistake (Front (List Term × Bool)) :=
  match fuel with
  | 0 => .error .misplaced
  | fuel + 1 =>
    match expression fuel m ts with
    | .ok (_, rest) =>
      .error (if closing = ")" && isOp rest closing then .starred else misplacedAt rest)
    | .error .misplaced => .error .star
    | .error mistake => .error mistake

def parenthesised (fuel : Nat) (m : Mode) (ts : List Token) : Except Mistake (Front Term) :=
  match fuel with
  | 0 => .error (misplacedAt ts)
  | fuel + 1 =>
    if isOp ts ")" then .ok (.tuple [], ts.tail)
    else if isOp ts "**" && m.isNaming then do
      let (_, rest) ← expression fuel m ts.tail
      .error (if isOp rest ")" then .doubleStarred else misplacedAt rest)
    else do
      let ((ts, hasComma), rest) ← items fuel m ")" ts
      pure (match ts, hasComma with
        | [t], false => t
        | ts, _ => .tuple ts, rest)

/-- Reads what follows an opening brace: the entries of a dictionary, or the items of a set when no
colon follows the first expression. -/
def braced (fuel : Nat) (m : Mode) (ts : List Token) : Except Mistake (Front Term) :=
  match fuel with
  | 0 => .error (misplacedAt ts)
  | fuel + 1 =>
    if isOp ts "\x7d" || isOp ts "**" then entries fuel m [] ts
    else if isOp ts "*" || ((appliedName? ts).isSome && isOp ts.tail ":=") then do
      let ((ts, _), rest) ← items fuel m "\x7d" ts
      pure (.set ts, rest)
    else do
      let (first, rest) ← expression fuel m ts
      if isOp rest ":" then entryAfter fuel m [] first.term rest.tail
      else
        let (first, rest) ← namedAfter fuel m ts first rest
        let ((ts, _), rest) ← itemsAfter fuel m "\x7d" [first.term] false rest
        pure (.set ts, rest)

def entries (fuel : Nat) (m : Mode) (before : List (Term × Term)) (ts : List Token) :
    Except Mistake (Front Term) :=
  match fuel with
  | 0 => .error (misplacedAt ts)
  | fuel + 1 =>
    if isOp ts "\x7d" then .ok (.dict before.reverse, ts.tail)
    else if isOp ts "**" then do
      let (t, rest) ← sum fuel m ts.tail
      entriesAfter fuel m ((.other "unpacking", t) :: before) rest
    else do
      let (key, rest) ← expression fuel m ts
      if isOp rest ":" then entryAfter fuel m before key.term rest.tail
      else .error .missingColon

def entryAfter (fuel : Nat) (m : Mode) (before : List (Term × Term)) (key : Term)
    (ts : List Token) : Except Mistake (Front Term) :=
  match fuel with
  | 0 => .error (misplacedAt ts)
  | fuel + 1 =>
    match expression fuel m ts with
    | .ok (value, rest) => entriesAfter fuel m ((key, value.term) :: before) rest
    | .error .misplaced =>
      if isOp ts "," || isOp ts "\x7d" then .error .missingValue
      else if isOp ts "*" then do
        let _ ← sum fuel m ts.tail
        .error .starredValue
      else .error .misplaced
    | .error mistake => .error mistake

def entriesAfter (fuel : Nat) (m : Mode) (before : List (Term × Term)) (ts : List Token) :
    Except Mistake (Front Term) :=
  match fuel with
  | 0 => .error (misplacedAt ts)
  | fuel + 1 =>
    if isOp ts "\x7d" then .ok (.dict before.reverse, ts.tail)
    else if isOp ts "," then entries fuel m before ts.tail
    else .error (misplacedAt ts)

def arguments (fuel : Nat) (m : Mode) (given : Given) (ts : List Token) :
    Except Mistake (Front Unit) :=
  match fuel with
  | 0 => .error (misplacedAt ts)
  | fuel + 1 =>
    if isOp ts ")" then .ok ((), ts.tail)
    else if isOp ts "*" then
      if given = .unpacked then .error (if m.isNaming then .lateUnpacking else .misplaced)
      else
        match expression fuel m ts.tail with
        | .ok (_, rest) => argumentsAfter fuel m given rest
        | .error .misplaced => .error .star
        | .error mistake => .error mistake
    else if isOp ts "**" then do
      let (_, rest) ← expression fuel m ts.tail
      argumentsAfter fuel m .unpacked rest
    else if isAssignedName ts then do
      let (_, rest) ← expression fuel m ts.tail.tail
      argumentsAfter fuel m given.afterName rest
    else if (appliedName? ts).isSome && isOp ts.tail ":=" then do
      let (_, rest) ← expression fuel m ts.tail.tail
      argumentsAfter fuel m given rest
    else do
      let (operand, rest) ← expression fuel m ts
      if isOp rest "=" && m.isNaming then
        throw (if beginsConstant ts && isOp ts.tail "=" then .assignedConstant operand.term.kind
          else .assignedArgument)
      if given ≠ .positional then
        throw (if m.isNaming then .lateArgument (given = .unpacked) else .misplaced)
      argumentsAfter fuel m given rest

def argumentsAfter (fuel : Nat) (m : Mode) (given : Given) (ts : List Token) :
    Except Mistake (Front Unit) :=
  match fuel with
  | 0 => .error (misplacedAt ts)
  | fuel + 1 =>
    if isOp ts ")" then .ok ((), ts.tail)
    else if isOp ts "," then arguments fuel m given ts.tail
    else .error (misplacedAt ts)

def expressions (fuel : Nat) (m : Mode) (ts : List Token) : Except Mistake (Front Term) :=
  match fuel with
  | 0 => .error (misplacedAt ts)
  | fuel + 1 => do
    let (first, rest) ← expression fuel m ts
    expressionsAfter fuel m [first.term] rest

def expressionsAfter (fuel : Nat) (m : Mode) (before : List Term) (ts : List Token) :
    Except Mistake (Front Term) :=
  match fuel with
  | 0 => .error (misplacedAt ts)
  | fuel + 1 =>
    if isOp ts "," then
      match expression fuel m ts.tail with
      | .ok (next, rest) => expressionsAfter fuel m (next.term :: before) rest
      | .error .misplaced => .ok (.tuple before.reverse, ts.tail)
      | .error mistake => .error mistake
    else
      match before with
      | [t] => .ok (t, ts)
      | _ => .ok (.tuple before.reverse, ts)

end

def whole (m : Mode) (ts : List Token) : Except Mistake Term := do
  let (t, rest) ← expressions (20 * (ts.length + 1)) m ts
  match rest.dropWhile (· == .newline) with
  | [.finish .complete] => pure t
  | .indent :: _ => .error .misplacedIndent
  | rest => .error (misplacedAt rest)

def parse (s : List Char) : Except Mistake Term := do
  let ts ← tokens s
  orElse (whole ⟨false, false⟩ ts) (whole ⟨true, false⟩ ts)

end TransferReport.Markup.Literal
