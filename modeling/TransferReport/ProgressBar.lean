import TransferReport.Markup.Basic
import TransferReport.Message

/-!
# The progress bar

The bar holds one task for each transfer that it shows.  Drawing the bar lays out every task in
the order of creation, column by column; the first fault ends the drawing.  The bar is drawn when it
starts, when a task is added while it runs, and when it stops.  On a console that is no terminal
nothing of it is shown, so only the faults are left.  A task that is updated or removed must be
there.
-/

namespace TransferReport

/-- A task of the bar; a total of `none` is unknown. -/
structure Task where
  id : Nat
  name : String
  total : Option Number
  completed : Number
  deriving DecidableEq, Inhabited

namespace Task

/-- The style that names are drawn in, as a tag before the name. -/
def nameTag : String := "[progress.description]"

/-- The whole that a task counts to, with -1 for an unknown one. -/
def wholeTotal (t : Task) : Except Fault Int :=
  match t.total with
  | none => .ok (-1)
  | some total => total.truncate

def sizeText (f : SizeFormat) (t : Task) : Except Fault String := do
  let completed ← t.completed.truncate
  let total ← t.wholeTotal
  f.progress completed (Message.raisedTotal completed total)

end Task

/-- The columns of the bar.  The bar itself and the time since the start of a task are drawn of
every task. -/
inductive Column where
  | text
  | bar
  | size (format : SizeFormat)
  | elapsed
  deriving DecidableEq, Inhabited

namespace Column

def name : Column → String
  | text => "TextColumn"
  | bar => "BarColumn"
  | size _ => "TransferSizeColumn"
  | elapsed => "TimeElapsedColumn"

def all (f : SizeFormat) : List Column := [text, bar, size f, elapsed]

def fault? (t : Task) : Column → Option Fault
  | text =>
    match Markup.openAtEnd (Task.nameTag ++ t.name).toList with
    | .error fault => some fault
    | .ok _ => none
  | size f =>
    match t.sizeText f with
    | .error fault => some fault
    | .ok _ => none
  | bar | elapsed => none

end Column

def Task.fault? (f : SizeFormat) (t : Task) : Option Fault :=
  (Column.all f).findSome? (Column.fault? t)

/-- Nothing but the name and the size of a task meets a fault, and the name is drawn first. -/
theorem Task.fault?_eq_or (f : SizeFormat) (t : Task) :
    t.fault? f = (Column.text.fault? t).or ((Column.size f).fault? t) := by
  rw [fault?, Column.all, List.findSome?_cons, List.findSome?_cons, List.findSome?_cons,
    List.findSome?_cons, List.findSome?_nil]
  cases Column.text.fault? t with
  | some fault => rfl
  | none => cases (Column.size f).fault? t <;> rfl

/-- The tasks in order of creation, the number of the next task, and whether the bar runs. -/
structure ProgressBar where
  tasks : List Task
  nextId : Nat
  running : Bool
  deriving DecidableEq, Inhabited

namespace ProgressBar

def empty : ProgressBar := ⟨[], 0, false⟩

def fault? (f : SizeFormat) (bar : ProgressBar) : Option Fault :=
  bar.tasks.findSome? (Task.fault? f)

def withTask (bar : ProgressBar) (name : String) (total : Option Number) : ProgressBar :=
  { bar with
    tasks := bar.tasks ++ [{ id := bar.nextId, name, total, completed := .int 0 }]
    nextId := bar.nextId + 1 }

/-- Adds a task and gives its number.  When drawing fails the task is there all the same. -/
def add (f : SizeFormat) (bar : ProgressBar) (name : String) (total : Option Number) :
    ProgressBar × Except Fault Nat :=
  let grown := bar.withTask name total
  if bar.running then
    match grown.fault? f with
    | some fault => (grown, .error fault)
    | none => (grown, .ok bar.nextId)
  else (grown, .ok bar.nextId)

/-- Starts the bar unless it runs.  When drawing fails it does not run. -/
def start (f : SizeFormat) (bar : ProgressBar) : ProgressBar × Option Fault :=
  if bar.running then (bar, none)
  else
    match bar.fault? f with
    | some fault => (bar, some fault)
    | none => ({ bar with running := true }, none)

/-- Stops the bar; one that runs is drawn a last time. -/
def stop (f : SizeFormat) (bar : ProgressBar) : ProgressBar × Option Fault :=
  if bar.running then ({ bar with running := false }, bar.fault? f) else (bar, none)

/-- The bar with another count for what is completed of a task. -/
def withCompleted (bar : ProgressBar) (id : Nat) (completed : Number) : ProgressBar :=
  { bar with
    tasks := bar.tasks.map fun t => if t.id = id then { t with completed := completed } else t }

def without (bar : ProgressBar) (id : Nat) : ProgressBar :=
  { bar with tasks := bar.tasks.filter fun t => t.id != id }

def missing? (bar : ProgressBar) (id : Nat) : Option Fault :=
  if bar.tasks.any fun t => t.id = id then none else some (.unknownTask id)

/-- Sets what is completed of a task; nothing is drawn. -/
def complete (bar : ProgressBar) (id : Nat) (completed : Number) : ProgressBar × Option Fault :=
  match bar.missing? id with
  | some fault => (bar, some fault)
  | none => (bar.withCompleted id completed, none)

/-- Removes a task; nothing is drawn. -/
def remove (bar : ProgressBar) (id : Nat) : ProgressBar × Option Fault :=
  match bar.missing? id with
  | some fault => (bar, some fault)
  | none => (bar.without id, none)

end ProgressBar

end TransferReport
