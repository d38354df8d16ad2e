/-!
# Terms of a literal

A literal is a number with an optional sign, a complex number as a sum, a text, one of the
constants, or a tuple, set or dictionary of literals; every other expression is no literal.  What
stands in a set or is a key of a dictionary must not be changeable itself.
-/

namespace TransferReport.Markup.Literal

/-- An expression, as far as it matters whether it is a literal. -/
inductive Term where
  | name (text : String)
  | number (isImaginary : Bool)
  | text (isFormatted : Bool)
  | constant (c : String)
  /-- With a sign in front. -/
  | signed (t : Term)
  /-- A sum or a difference. -/
  | sum (left right : Term)
  | tuple (items : List Term)
  | set (items : List Term)
  | dict (entries : List (Term × Term))
  | call (function : Term) (isEmpty : Bool)
  /-- With a star in front. -/
  | starred
  /-- Any other expression of a kind. -/
  | other (kind : String)
  deriving Inhabited

inductive Unusable where
  | noLiteral
  /-- A changeable value stands in a set or is a key. -/
  | changeable (kind : String)
  deriving DecidableEq, Inhabited

namespace Unusable

def message : Unusable → String
  | noLiteral => "malformed node or string on line 1"
  | changeable kind => "unhashable type: '" ++ kind ++ "'"

end Unusable

namespace Term

def kind : Term → String
  | name _ => "name"
  | number _ => "literal"
  | text isFormatted => if isFormatted then "f-string expression" else "literal"
  | constant c => if c = "..." then "ellipsis" else c
  | signed _ | sum _ _ => "expression"
  | tuple _ => "tuple"
  | set _ => "set display"
  | dict _ => "dict literal"
  | call _ _ => "function call"
  | starred => "starred"
  | other kind => kind

/-- Whether a term is the one call that is a literal: that of the empty set. -/
def isEmptySet : Term → Bool
  | call (name "set") true => true
  | _ => false

def isStarred : Term → Bool
  | starred => true
  | _ => false

def isReal : Term → Bool
  | number isImaginary => !isImaginary
  | signed t => isReal t
  | _ => false

/-- Whether a term is a number with at most one sign. -/
def isSignedNumber : Term → Bool
  | number _ | signed (number _) => true
  | _ => false

mutual

/-- The kind of the changeable value that a term is or holds as an item of a tuple. -/
def changeable? : Term → Option String
  | set _ => some "set"
  | dict _ => some "dict"
  | call function isEmpty => if isEmptySet (.call function isEmpty) then some "set" else none
  | tuple items => changeableItem? items
  | _ => none

def changeableItem? : List Term → Option String
  | [] => none
  | t :: ts => (changeable? t).or (changeableItem? ts)

end

mutual

def unusable? : Term → Option Unusable
  | name _ | starred | other _ => some .noLiteral
  | number _ | constant _ => none
  | text isFormatted => if isFormatted then some .noLiteral else none
  | signed t => if isSignedNumber (.signed t) then none else some .noLiteral
  | sum left right =>
    if isSignedNumber left && isReal left && isSignedNumber right && !isReal right then none
    else some .noLiteral
  | call function isEmpty =>
    if isEmptySet (.call function isEmpty) then none else some .noLiteral
  | tuple items => unusableItem? items
  | set items => unusableMember? items
  | dict entries => unusablePair? entries

def unusableItem? : List Term → Option Unusable
  | [] => none
  | t :: ts => (unusable? t).or (unusableItem? ts)

def unusableMember? : List Term → Option Unusable
  | [] => none
  | t :: ts => ((unusable? t).or ((changeable? t).map .changeable)).or (unusableMember? ts)

def unusablePair? : List (Term × Term) → Option Unusable
  | [] => none
  | (key, value) :: entries =>
    (((unusable? key).or (unusable? value)).or ((changeable? key).map .changeable)).or
      (unusablePair? entries)

end

end Term

end TransferReport.Markup.Literal
