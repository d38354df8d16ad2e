import TransferReport.Level
import TransferReport.Terminal.Line

/-!
# The logger

The logger hands every record to its sinks: the console, which shows records from a threshold on
and without the characters that would move its cursor, and a file, whose threshold is never above
that of an informative record.  Setting the threshold replaces both sinks.  A name that is no level
leaves the old sinks in place; a level that is negative or of the wrong kind is found out only
after they are gone.  Without sinks nothing is recorded, under whatever level.
-/

namespace TransferReport

/-- The threshold of the console, the file sink with its threshold, and what every file that was
ever opened holds. -/
structure Logger where
  console : Option Nat
  sink : Option (String × Nat)
  files : List (String × List Record)
  deriving Inhabited

namespace Logger

def silent : Logger := ⟨none, none, []⟩

def defaultThreshold : Int := Level.info.severity

def fileThreshold (threshold : Nat) : Nat := min Level.info.severity threshold

/-- Opens a file, which keeps what it holds already. -/
def openFile (files : List (String × List Record)) (name : String) :
    List (String × List Record) :=
  if (files.lookup name).isSome then files else files ++ [(name, [])]

def withThreshold (l : Logger) (threshold : Nat) (file : Option String) : Logger :=
  { console := some threshold
    sink := file.map fun name => (name, fileThreshold threshold)
    files := match file with
      | some name => openFile l.files name
      | none => l.files }

def setSeverity (l : Logger) (severity : Int) (file : Option String) : Logger × Except Fault Int :=
  if severity < 0 then (⟨none, none, l.files⟩, .error (Fault.negativeLevel severity).raised)
  else (l.withThreshold severity.toNat file, .ok severity)

/-- Sets the threshold that a value names, and gives its severity. -/
def configure (l : Logger) (level : Value) (file : Option String) : Logger × Except Fault Int :=
  match level with
  | .text name =>
    match Level.ofAnyCase? name with
    | some level => l.setSeverity level.severity file
    | none => (l, .error (.unknownThreshold name))
  | .int severity => l.setSeverity severity file
  | .bool b => l.setSeverity (if b then 1 else 0) file
  | value => (⟨none, none, l.files⟩, .error (.levelKind value))

/-- The level that a value names.  The label of a bare level has its severity in it. -/
def level : Value → Except Fault Level
  | .text name =>
    match Level.ofName? name with
    | some level => .ok level
    | none => .error (.unknownLevel name)
  | .int severity =>
    if severity < 0 then .error (Fault.negativeLevel severity).raised
    else if Text.isWritable severity then .ok (.bare severity.toNat)
    else .error .unwritableInteger
  | .bool b => .ok (.bare (if b then 1 else 0))
  | value => .error (.levelKind value)

def writeFile (l : Logger) (r : Record) : List (String × List Record) :=
  match l.sink with
  | some (name, threshold) =>
    if threshold ≤ r.level.severity then
      l.files.map fun file => if file.1 = name then (file.1, file.2 ++ [r]) else file
    else l.files
  | none => l.files

def presented (r : Record) : Record :=
  ⟨r.level.shown, String.ofList (Terminal.withoutControls r.text.toList)⟩

def shown (l : Logger) (r : Record) : List Record :=
  match l.console with
  | some threshold => if threshold ≤ r.level.severity then [presented r] else []
  | none => []

def emit (l : Logger) (r : Record) : Logger × List Record :=
  ({ l with files := l.writeFile r }, l.shown r)

def log (l : Logger) (value : Value) (text : String) : Logger × Except Fault (List Record) :=
  if l.console.isNone && l.sink.isNone then (l, .ok [])
  else
    match level value with
    | .error fault => (l, .error fault)
    | .ok level =>
      let (after, shown) := l.emit ⟨level, text⟩
      (after, .ok shown)

/-- Hands records to the sinks in order; gives what the console shows. -/
def emitAll (l : Logger) : List Record → Logger × List Record
  | [] => (l, [])
  | r :: rest =>
    let (next, shown) := l.emit r
    let (after, others) := next.emitAll rest
    (after, shown ++ others)

/-- The positions of the vertical bars in a shown text, which are highlighted; `start` counts the
characters before it. -/
def highlights (start : Nat) : List Char → List (Nat × Nat)
  | [] => []
  | c :: cs =>
    if c = '|' then (start, start + 1) :: highlights (start + 1) cs else highlights (start + 1) cs

end Logger

end TransferReport
