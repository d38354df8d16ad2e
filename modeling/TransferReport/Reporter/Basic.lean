import TransferReport.Reporter.Console
import TransferReport.Reporter.Log

/-!
# Reporters

A reporter is told of every stage of every transfer and shows it on the console, in the log, or
not at all.  `run` tells it of a sequence of calls; a fault ends one call and the next one goes on
from the state that it left.
-/

namespace TransferReport

/-- How the reports of one moment are made: the text of sizes, the clock, the least severity that is
recorded, and the emojis that the console knows. -/
structure Desk where
  format : SizeFormat
  clock : Number
  threshold : Nat
  emojis : Terminal.EmojiNames
  deriving Inhabited

inductive Reporter where
  | console (c : Console)
  | log
  | quiet
  deriving DecidableEq, Inhabited

namespace Reporter

def report (desk : Desk) (r : Reporter) (stage : Stage) (e : Event) : Step Reporter :=
  match r with
  | .console c => (c.report desk.emojis desk.format desk.clock stage e).map console
  | .log =>
    let (records, fault) := LogReport.report desk.format desk.clock desk.threshold stage e
    ⟨.log, "", records, fault⟩
  | .quiet => ⟨.quiet, "", [], none⟩

structure Call where
  desk : Desk
  stage : Stage
  event : Event

/-- The steps of a sequence of calls. -/
def run (r : Reporter) : List Call → List (Step Reporter)
  | [] => []
  | call :: calls =>
    let step := r.report call.desk call.stage call.event
    step :: run step.state calls

end Reporter

end TransferReport
