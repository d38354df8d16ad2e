import TransferReport.Level
import TransferReport.ProgressBar
import TransferReport.Terminal.Line

/-!
# Reporting on the console

The console prints a line when a transfer is initiated and when it ends.  With a progress bar it
also keeps which transfers are under way, by their URL, and which task of the bar shows each.  The
bar starts with the first of them and is stopped whenever none is left, which prints an empty line.
A fault ends the stage where it arises, and what was done before it stays.
-/

namespace TransferReport

/-- The effect of reporting one stage: the state after it, what was printed, what was recorded,
and the fault that ended it early. -/
structure Step (State : Type) where
  state : State
  out : String
  records : List Record
  fault : Option Fault

def Step.map {State Other : Type} (g : State → Other) (s : Step State) : Step Other :=
  { s with state := g s.state }

/-- The bar, if one is shown, and the tasks of the transfers under way, in order. -/
structure Console where
  bar : Option ProgressBar
  underWay : List (String × Nat)
  deriving DecidableEq, Inhabited

namespace Console

def new (showBar : Bool) : Console :=
  ⟨if showBar then some .empty else none, []⟩

def urls (c : Console) : List String :=
  c.underWay.map fun entry => entry.1

/-- The total of a task: a negative length is unknown. -/
def knownLength (length : Int) : Option Number :=
  if 0 ≤ length then some (.int length) else none

/-- Shows what has been transferred, with a new task when the transfer is not yet under way. -/
def update (f : SizeFormat) (c : Console) (e : Event) : Console × Option Fault :=
  match c.bar with
  | none => (c, none)
  | some bar =>
    match c.underWay.lookup e.url with
    | some id =>
      let (shown, fault) := bar.complete id (.int e.transferred)
      ({ c with bar := some shown }, fault)
    | none =>
      match bar.add f e.resource.name (knownLength e.resource.length) with
      | (grown, .error fault) => ({ c with bar := some grown }, some fault)
      | (grown, .ok id) =>
        let underWay := c.underWay ++ [(e.url, id)]
        match grown.start f with
        | (idle, some fault) => (⟨some idle, underWay⟩, some fault)
        | (started, none) =>
          let (shown, fault) := started.complete id (.int e.transferred)
          (⟨some shown, underWay⟩, fault)

def release (c : Console) (bar : ProgressBar) (url : String) : ProgressBar × Option Fault :=
  match c.underWay.lookup url with
  | some id => bar.remove id
  | none => (bar, none)

/-- Forgets a transfer, and stops the bar when none is left under way; gives what that prints. -/
def finish (f : SizeFormat) (c : Console) (e : Event) : Console × Except Fault String :=
  match c.bar with
  | none => (c, .ok "")
  | some bar =>
    let underWay := c.underWay.filter fun entry => entry.1 != e.url
    match c.release bar e.url with
    | (kept, some fault) => (⟨some kept, underWay⟩, .error fault)
    | (smaller, none) =>
      if underWay.isEmpty then
        match smaller.stop f with
        | (stopped, some fault) => (⟨some stopped, underWay⟩, .error fault)
        | (stopped, none) => (⟨some stopped, underWay⟩, .ok "\n")
      else (⟨some smaller, underWay⟩, .ok "")

/-- The line that ends a transfer; nothing for the stages that do not end it. -/
def lastLine (f : SizeFormat) (clock : Number) (stage : Stage) (e : Event) :
    Except Fault String :=
  match stage with
  | .corrupted => .ok ("[WARNING] " ++ Message.problem e)
  | .succeeded => Message.succeeded f clock e
  | .failed => .ok ("[ERROR] " ++ Message.problem e)
  | _ => .ok ""

def close (names : Terminal.EmojiNames) (f : SizeFormat) (clock : Number) (c : Console)
    (stage : Stage) (e : Event) : Step Console :=
  match c.finish f e with
  | (after, .error fault) => ⟨after, "", [], some fault⟩
  | (after, .ok blank) =>
    match lastLine f clock stage e with
    | .error fault => ⟨after, blank, [], some fault⟩
    | .ok line => ⟨after, blank ++ Terminal.println names line, [], none⟩

def report (names : Terminal.EmojiNames) (f : SizeFormat) (clock : Number) (c : Console)
    (stage : Stage) (e : Event) : Step Console :=
  match stage with
  | .initiated => ⟨c, Terminal.println names (Message.initiated e), [], none⟩
  | .started | .progressed =>
    let (after, fault) := c.update f e
    ⟨after, "", [], fault⟩
  | .corrupted | .succeeded | .failed => c.close names f clock stage e

end Console

end TransferReport
