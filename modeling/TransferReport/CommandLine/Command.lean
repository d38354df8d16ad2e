import TransferReport.CommandLine.Arguments
import TransferReport.Settings

/-!
# Commands

Three commands can be given: the text of a size, the text of a progress, and the report of a
simulated transfer.  Every command is read completely before anything of it is done: its arguments
are told apart first, then its counts and its mode are read in the order of its parameters, and last
nothing may be missing and no word left over.
-/

namespace TransferReport.CommandLine

structure Simulation where
  size : Int
  chunk : Int
  upload : Bool
  repository : String
  url : String
  name : String
  unknownLength : Bool
  mode : Mode
  bar : Bool
  locale : String
  deriving Inhabited

inductive Command where
  | size (size : Int) (unit : Option String) (symbol : Bool) (locale : String)
  | progress (progressed total : Int) (locale : String)
  | simulate (s : Simulation)
  deriving Inhabited

/-- What comes of reading: `none` for wrong usage, and a fault that reading a count has met. -/
abbrev Reading (α : Type) := OptionT (Except Fault) α

/-- The count given for a parameter, if one is given. -/
def count? (a : Arguments) (name : String) : Reading (Option Int) :=
  match a.word? name with
  | none => pure none
  | some token =>
    match integer? token with
    | none => failure
    | some (.ok n) => pure (some n)
    | some (.error fault) => OptionT.mk (.error fault)

/-- A count that must be given. -/
def required (n : Option Int) : Reading Int :=
  OptionT.mk (.ok n)

/-- The last step of reading: no word may be left over. -/
def noneLeft (a : Arguments) : Reading Unit :=
  if a.rest.isEmpty then pure () else failure

def mode (a : Arguments) : Reading Mode :=
  match a.word? "mode" with
  | none => pure .console
  | some token => OptionT.mk (.ok (Mode.ofName? token))

def word (a : Arguments) (name otherwise : String) : String :=
  (a.word? name).getD otherwise

namespace Command

def sizeParameters : List Parameter :=
  [.positional "size", .word "unit", .switch "symbol", .word "locale"]

def progressParameters : List Parameter :=
  [.positional "progressed", { Parameter.positional "total" with takesOptions := true },
   .word "locale"]

def simulateParameters : List Parameter :=
  [.positional "size", .word "chunk", .switch "upload", .word "repository", .word "url",
   .word "name", .switch "unknown-length", .word "mode", .switch "bar", .word "locale"]

def arguments (parameters : List Parameter) (tokens : List String) : Reading Arguments :=
  OptionT.mk (.ok (Arguments.ofTokens? parameters tokens))

def readSize (tokens : List String) : Reading Command := do
  let a ← arguments sizeParameters tokens
  let n ← count? a "size"
  let n ← required n
  noneLeft a
  pure (.size n (a.word? "unit") (a.switch "symbol" true) (word a "locale" "en"))

def readProgress (tokens : List String) : Reading Command := do
  let a ← arguments progressParameters tokens
  let progressed ← count? a "progressed"
  let total ← count? a "total"
  let progressed ← required progressed
  noneLeft a
  pure (.progress progressed (total.getD (-1)) (word a "locale" "en"))

def readSimulate (tokens : List String) : Reading Command := do
  let a ← arguments simulateParameters tokens
  let size ← count? a "size"
  let chunk ← count? a "chunk"
  let mode ← mode a
  let size ← required size
  noneLeft a
  pure (.simulate {
    size
    chunk := chunk.getD 65536
    upload := a.switch "upload" false
    repository := word a "repository" "central"
    url := word a "url" "https://repo.maven.apache.org/maven2/"
    name := word a "name" "artifact.jar"
    unknownLength := a.switch "unknown-length" false
    mode
    bar := a.switch "bar" true
    locale := word a "locale" "en" })

def parameters? (name : String) : Option (List Parameter) :=
  if name = "size" then some sizeParameters
  else if name = "progress" then some progressParameters
  else if name = "simulate" then some simulateParameters
  else none

def read : List String → Reading Command
  | [] => failure
  | name :: tokens =>
    if name = "size" then readSize tokens
    else if name = "progress" then readProgress tokens
    else if name = "simulate" then readSimulate tokens
    else failure

end Command

end TransferReport.CommandLine
