import TransferReport.CommandLine.Numeral

/-!
# Arguments of a command

A command has parameters, each of which takes a word or is a switch.  An option names a parameter
and is followed by its word, or holds it after an equals sign; a switch may be negated by `no-` in
front of its name.  The words that are no options fill the positional parameters in order, which
must not have been named before one of them; after the token `--` every token is such a word.  No
parameter is given twice.  Reading fails as a whole where the usage is wrong, but words for which
there is no parameter are kept.
-/

namespace TransferReport.CommandLine

structure Parameter where
  name : String
  isSwitch : Bool
  isPositional : Bool
  /-- Whether the parameter takes a word that looks like an option. -/
  takesOptions : Bool
  aliases : List String
  negatable : Bool
  deriving Inhabited

def Parameter.positional (name : String) : Parameter := ⟨name, false, true, false, [], false⟩

def Parameter.word (name : String) : Parameter := ⟨name, false, false, false, [], false⟩

def Parameter.switch (name : String) : Parameter := ⟨name, true, false, false, [], true⟩

def Parameter.options (p : Parameter) : List String := ("--" ++ p.name) :: p.aliases

def Parameter.negation? (p : Parameter) : Option String :=
  if p.negatable then some ("--no-" ++ p.name) else none

inductive Argument where
  | word (token : String)
  | switch (on : Bool)
  deriving DecidableEq, Inhabited

/-- The token after which no token is an option. -/
def endOfOptions : String := "--"

/-- An option begins with a hyphen and is no number. -/
def isOption (token : String) : Bool :=
  match token.toList with
  | '-' :: _ => !isNumeral token
  | _ => false

/-- The option and the word after its equals sign.  In an option an underscore stands for a
hyphen. -/
def splitOption (token : String) : String × Option String :=
  let s := token.toList
  let option := (s.takeWhile (· != '=')).map fun c => if c = '_' then '-' else c
  (String.ofList option,
    if s.contains '=' then some (String.ofList ((s.dropWhile (· != '=')).drop 1)) else none)

/-- What an option asks for: a parameter to be given a word, one to be switched, or nothing. -/
inductive Request where
  | word (p : Parameter)
  | switch (name : String) (on : Bool)
  | unknown
  | misused

/-- The request to set a switch, or to set it to the opposite of the value it is given. -/
def switchRequest (p : Parameter) (on : Bool) : Option String → Request
  | none => .switch p.name on
  | some value =>
    match switch? value with
    | some true => .switch p.name on
    | some false => .switch p.name (!on)
    | none => .misused

def request (parameters : List Parameter) (option : String) (value? : Option String) : Request :=
  match parameters.find? fun p => p.options.contains option with
  | some p => if p.isSwitch then switchRequest p true value? else .word p
  | none =>
    match parameters.find? fun p => p.negation? = some option with
    | some p => switchRequest p false value?
    | none => .unknown

def Parameter.takes (p : Parameter) (token : String) : Bool :=
  p.takesOptions || !isOption token

inductive OptionReading where
  /-- Arguments for the parameters, the number of tokens after it that belong to it, and what is
  left of the token itself. -/
  | given (arguments : List (String × Argument)) (words : Nat) (left : Option String)
  | unknown
  | misused

/-- The switches named by the letters behind one hyphen, and the letters from the first one that
names no switch. -/
def switchesOfLetters (parameters : List Parameter) : List Char → List String × List Char
  | [] => ([], [])
  | c :: cs =>
    match request parameters (String.ofList ['-', c]) none with
    | .switch name _ =>
      let (names, left) := switchesOfLetters parameters cs
      (name :: names, left)
    | _ => ([], c :: cs)

/-- Reads a token that names no parameter as a whole as the letters of several switches. -/
def readLetters (parameters : List Parameter) (token : String) : OptionReading :=
  match token.toList with
  | '-' :: c :: cs =>
    match switchesOfLetters parameters (c :: cs) with
    | ([], _) => .unknown
    | (names, left) =>
      .given (names.map fun name => (name, .switch true)) 0
        (if left.isEmpty then none else some (String.ofList ('-' :: left)))
  | _ => .unknown

def readOption (parameters : List Parameter) (token : String) (tokens : List String) :
    OptionReading :=
  let (option, value?) := splitOption token
  match request parameters option value? with
  | .switch name on => .given [(name, .switch on)] 0 none
  | .misused => .misused
  | .unknown => readLetters parameters token
  | .word p =>
    match value?, tokens with
    | some value, _ => .given [(p.name, .word value)] 0 none
    | none, value :: _ =>
      if p.takes value && value != endOfOptions then .given [(p.name, .word value)] 1 none
      else .misused
    | none, [] => .misused

structure Word where
  text : String
  /-- Whether it stands after the end of the options. -/
  isForced : Bool
  deriving DecidableEq, Inhabited

/-- What was given for the parameters, and the words that name none. -/
structure Arguments where
  given : List (String × Argument)
  rest : List Word
  deriving Inhabited

def Arguments.empty : Arguments := ⟨[], []⟩

/-- Adds what was given for a parameter, unless it has been given already. -/
def Arguments.give? (a : Arguments) (name : String) (argument : Argument) : Option Arguments :=
  if (a.given.lookup name).isSome then none
  else some { a with given := (name, argument) :: a.given }

def Arguments.giveAll? (a : Arguments) (arguments : List (String × Argument)) : Option Arguments :=
  arguments.foldlM (fun a argument => a.give? argument.1 argument.2) a

def Arguments.keep (a : Arguments) (token : String) : Arguments :=
  { a with rest := ⟨token, false⟩ :: a.rest }

/-- Reads the options among the tokens after the first `skipped` ones, which belong to an option
that has been read.  Unknown options are kept with the other words. -/
def Arguments.read? (parameters : List Parameter) : Nat → List String → Option Arguments
  | _, [] => some .empty
  | skipped + 1, _ :: tokens => read? parameters skipped tokens
  | 0, token :: tokens =>
    if token = endOfOptions then some ⟨[], tokens.map (⟨·, true⟩)⟩
    else if isOption token then
      match readOption parameters token tokens with
      | .given arguments words left => do
        let a ← (← read? parameters words tokens).giveAll? arguments
        pure (left.elim a a.keep)
      | .unknown => (read? parameters 0 tokens).map fun a => a.keep token
      | .misused => none
    else (read? parameters 0 tokens).map fun a => a.keep token

/-- Gives the words that name no parameter to the positional parameters in order, where
`passedNamed` tells whether one of them has been passed over because it was named. -/
def Arguments.place? (a : Arguments) (passedNamed : Bool) :
    List Parameter → List Word → Option Arguments
  | _, [] => some { a with rest := [] }
  | [], words => some { a with rest := words }
  | p :: parameters, word :: words =>
    if (a.given.lookup p.name).isSome then a.place? true parameters (word :: words)
    else if passedNamed || !(word.isForced || p.takes word.text) then none
    else do
      let a ← a.give? p.name (.word word.text)
      a.place? false parameters words

def Arguments.ofTokens? (parameters : List Parameter) (tokens : List String) :
    Option Arguments := do
  let a ← read? parameters 0 tokens
  a.place? false (parameters.filter fun p => p.isPositional) a.rest

def Arguments.word? (a : Arguments) (name : String) : Option String :=
  match a.given.lookup name with
  | some (.word token) => some token
  | _ => none

def Arguments.switch (a : Arguments) (name : String) (otherwise : Bool) : Bool :=
  match a.given.lookup name with
  | some (.switch on) => on
  | _ => otherwise

end TransferReport.CommandLine
