import TransferReport.CommandLine.Program
import TransferReport.Logger
import TransferReport.Replay

/-!
# Running a command line

The options of the whole program are taken out of the tokens: `--debug` lowers the threshold of the
log, and `--log-file` adds a file to it.  The rest is a command.  Its text and the lines of a
simulated transfer are printed; a simulation also records what it does.
-/

namespace TransferReport.CommandLine

inductive Status where
  | success
  | usage
  | fault (fault : Fault)
  deriving Inhabited

/-- What a run leaves: how it ended, what was printed, the records that the console showed, and
what the log holds. -/
structure Outcome where
  status : Status
  out : String
  records : List Record
  log : Logger
  deriving Inhabited

/-- What a command does, apart from the log. -/
structure Effect where
  out : String
  records : List Record
  fault : Option Fault

def printing (names : Terminal.EmojiNames) (text : Except Fault String) : Effect :=
  match text with
  | .ok text => ⟨Terminal.println names text, [], none⟩
  | .error fault => ⟨"", [], some fault⟩

def sizeText (size : Int) (unit : Option String) (symbol : Bool) (locale : String) :
    Except Fault String := do
  let unit ← match unit with
    | none => pure none
    | some name => (SizeUnit.named name).map some
  let f ← SizeFormat.ofValue (.text locale)
  f.formatAs size unit symbol

def progressText (progressed total : Int) (locale : String) : Except Fault String := do
  let f ← SizeFormat.ofValue (.text locale)
  f.progress progressed total

def Simulation.settings (s : Simulation) : Except Fault Settings :=
  Settings.check (.text s.locale) (.text s.mode.name) (.bool s.bar)

/-- The resource of a simulation, which begins at time zero. -/
def Simulation.resource (s : Simulation) : Resource :=
  ⟨s.repository, s.url, s.name, if s.unknownLength then -1 else s.size, .int 0⟩

def Simulation.direction (s : Simulation) : Direction :=
  if s.upload then .upload else .download

def replaySimulation (names : Terminal.EmojiNames) (threshold : Nat) (clock : Number)
    (s : Simulation) : Effect :=
  match s.settings with
  | .error fault => ⟨"", [], some fault⟩
  | .ok settings =>
    match settings.reporter with
    | .error fault => ⟨"", [], some fault⟩
    | .ok reporter =>
      let desk : Desk := ⟨settings.format, clock, threshold, names⟩
      let replayed :=
        Replay.toReporter desk reporter s.direction s.resource s.size s.chunk
      { out := replayed.out
        records :=
          LogReport.record threshold .debug ("config=" ++ settings.text) ++ replayed.records
        fault := match replayed.result with
          | .ok _ => none
          | .error fault => some fault }

def Command.run (names : Terminal.EmojiNames) (threshold : Nat) (clock : Number) :
    Command → Effect
  | .size n unit symbol locale => printing names (sizeText n unit symbol locale)
  | .progress part whole locale => printing names (progressText part whole locale)
  | .simulate s => replaySimulation names threshold clock s

def asksForHelp (tokens : List String) : Bool :=
  (tokens.takeWhile (· != endOfOptions)).any fun token => helpOptions.contains token

/-- How help ends that is asked for in the tokens of a command: it is there for the program and for
its commands. -/
def helpStatus (tokens : List String) : Status :=
  match tokens.filter fun token => !helpOptions.contains token with
  | [] => .success
  | name :: _ => if (Command.parameters? name).isSome then .success else .usage

def runCommand (names : Terminal.EmojiNames) (clock : Number) (threshold : Nat) (log : Logger)
    (tokens : List String) : Outcome :=
  if tokens.isEmpty then ⟨.success, "", [], log⟩
  else if asksForHelp tokens then ⟨helpStatus tokens, "", [], log⟩
  else
    match (Command.read tokens).run with
    | .error fault => ⟨.fault fault, "", [], log⟩
    | .ok none => ⟨.usage, "", [], log⟩
    | .ok (some command) =>
      let effect := command.run names threshold clock
      let (after, shown) := log.emitAll effect.records
      let status := match effect.fault with
        | none => .success
        | some fault => .fault fault
      ⟨status, effect.out, shown, after⟩

/-- Runs a command line at one moment of the clock, on a console that knows these emojis. -/
def run (names : Terminal.EmojiNames) (clock : Number) (tokens : List String) : Outcome :=
  if asksForHelp tokens then ⟨.success, "", [], .silent⟩
  else
    match readProgram? 0 .start tokens with
    | none => ⟨.usage, "", [], .silent⟩
    | some a =>
      let level : Level := if a.switch "debug" false then .debug else .info
      let log := Logger.silent.withThreshold level.severity (a.word? "log-file")
      runCommand names clock level.severity log (a.rest.map fun word => word.text)

end TransferReport.CommandLine
