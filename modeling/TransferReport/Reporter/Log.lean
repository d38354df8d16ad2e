import TransferReport.Level
import TransferReport.Message

/-!
# Reporting in the log

Every stage but the start of a transfer makes one record.  Records below the threshold are
dropped after their text has been made, except that the text of a progress record is not even
made when it would be dropped.
-/

namespace TransferReport.LogReport

def record (threshold : Nat) (level : Level) (text : String) : List Record :=
  if threshold ≤ level.severity then [⟨level, text⟩] else []

/-- Records a text that may fail to be made. -/
def emit (threshold : Nat) (level : Level) (text : Except Fault String) :
    List Record × Option Fault :=
  match text with
  | .ok text => (record threshold level text, none)
  | .error fault => ([], some fault)

def progressText (f : SizeFormat) (e : Event) : Except Fault String :=
  (Message.progress f e).map fun text => "Progress " ++ e.url ++ ": " ++ text

def report (f : SizeFormat) (clock : Number) (threshold : Nat) (stage : Stage) (e : Event) :
    List Record × Option Fault :=
  match stage with
  | .initiated => emit threshold .info (.ok (Message.initiated e))
  | .started => ([], none)
  | .progressed =>
    if threshold ≤ Level.debug.severity then emit threshold .debug (progressText f e)
    else ([], none)
  | .corrupted => emit threshold .warning (.ok (Message.problem e))
  | .succeeded => emit threshold .info (Message.succeeded f clock e)
  | .failed => emit threshold .error (.ok (Message.problem e))

end TransferReport.LogReport
