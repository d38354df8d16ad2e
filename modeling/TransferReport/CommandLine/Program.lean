import TransferReport.CommandLine.Command

/-!
# Options of the program

The options of the whole program may stand anywhere before the end of the options, between the
arguments of a command too, and are taken out from there.  They stay where they are when the command
takes them for a word of its own: as the word of an option that takes any token, or in place of the
next positional parameter when that takes any token.  To tell, the tokens of a command are followed
by the parameters that they fill.
-/

namespace TransferReport.CommandLine

def programParameters : List Parameter :=
  [⟨"debug", true, false, false, ["-d"], false⟩, .word "log-file"]

/-- The options that only ask for information about the program. -/
def helpOptions : List String := ["--help", "-h", "--version"]

/-- How far the arguments of a command have been given. -/
structure Standing where
  /-- The parameters of the command; none before it is named. -/
  parameters : List Parameter
  isNamed : Bool
  /-- The positional parameters that are still to be given. -/
  places : List Parameter
  /-- The parameter of the last option, as long as its word is missing. -/
  awaited : Option Parameter
  deriving Inhabited

namespace Standing

def start : Standing := ⟨[], false, [], none⟩

def isNamedBy (p : Parameter) (token : String) : Bool :=
  isOption token && p.options.contains (splitOption token).1

/-- At the name of the command, followed by the tokens of its arguments.  No place is kept for a
parameter that an option names later. -/
def ofName (name : String) (tokens : List String) : Standing :=
  let parameters := (Command.parameters? name).getD []
  let options := tokens.takeWhile (· != endOfOptions)
  ⟨parameters, true,
    parameters.filter fun p => p.isPositional && !options.any (isNamedBy p), none⟩

/-- Whether a token is taken for a word of the command although it looks like an option. -/
def takes (s : Standing) (token : String) : Bool :=
  s.awaited.any (·.takes token) || s.places.head?.any (·.takes token)

def next (s : Standing) (token : String) : Standing :=
  if s.awaited.any (·.takes token) then { s with awaited := none }
  else
    let (option, value?) := splitOption token
    match if isOption token then request s.parameters option value? else .unknown with
    | .word p => { s with awaited := if value?.isSome then none else some p }
    | .unknown =>
      if s.places.head?.any (·.takes token) then { s with places := s.places.tail } else s
    | _ => s

def pass (s : Standing) (token : String) (tokens : List String) : Standing :=
  if s.isNamed then s.next token else ofName token tokens

end Standing

/-- Takes the options of the program out of the tokens after the first `skipped` ones, which belong
to an option that has been read.  All other tokens are kept as they are. -/
def readProgram? : Nat → Standing → List String → Option Arguments
  | _, _, [] => some .empty
  | skipped + 1, s, _ :: tokens => readProgram? skipped s tokens
  | 0, s, token :: tokens =>
    if token = endOfOptions then some ⟨[], (token :: tokens).map (⟨·, true⟩)⟩
    else if isOption token && !s.takes token then
      match readOption programParameters token tokens with
      | .given arguments words left => do
        let a ← readProgram? words (left.elim s fun token => s.pass token tokens) tokens
        let a ← a.giveAll? arguments
        pure (left.elim a a.keep)
      | .unknown => (readProgram? 0 (s.pass token tokens) tokens).map fun a => a.keep token
      | .misused => none
    else (readProgram? 0 (s.pass token tokens) tokens).map fun a => a.keep token

end TransferReport.CommandLine
