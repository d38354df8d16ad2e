import TransferReport.Fault
import TransferReport.Markup.Literal.Expression
import TransferReport.Text.Blank

/-!
# Parameters of handlers

The parameters of a handler are the name of a function, with a literal in parentheses after it or
without one, or a literal alone.
-/

namespace TransferReport.Markup

/-- The literal that the parameters hold: what stands in parentheses after a name with dots, empty
parentheses when there is the name alone, and otherwise the whole text. -/
def literalText (parameters : List Char) : List Char :=
  let s := Text.trim parameters
  let rest := s.dropWhile fun c => Text.isWordChar c || c = '.'
  match rest with
  | [] => ['(', ')']
  | '(' :: inner =>
    if inner.getLast? = some ')' && !inner.contains '\n' then rest else s
  | _ => s

/-- The fault of parameters that hold no literal. -/
def checkParameters (parameters : List Char) : Except Fault Unit :=
  let text := literalText parameters
  match Literal.parse text with
  | .error mistake =>
    .error (.invalidLiteral (String.ofList text) (String.ofList parameters) mistake)
  | .ok term =>
    match term.unusable? with
    | some reason => .error (.notLiteral (String.ofList parameters) reason)
    | none => .ok ()

end TransferReport.Markup
