import TransferReport.SizeFormat
import TransferReport.Transfer

/-!
# Messages about a transfer

The lines that tell of one event, without regard to where they are shown.  The throughput is left
out unless time has passed since the transfer began, and the total in a progress text is raised to
what has already been transferred.
-/

namespace TransferReport.Message

def initiated (e : Event) : String :=
  let doing := match e.direction with
    | .download => "Downloading from"
    | .upload => "Uploading to"
  doing ++ " " ++ e.resource.repository ++ ": " ++ e.url

/-- What went wrong, or that nothing is known about it. -/
def problemText (problem : Option Problem) : String :=
  match problem with
  | some problem => problem.text
  | none => "None"

def problem (e : Event) : String :=
  problemText e.problem ++ " from " ++ e.resource.repository ++ " for " ++ e.url

/-- The bytes moved per second since the start of the transfer, without the fraction. -/
def rate (clock : Number) (e : Event) : Except Fault (Option Int) := do
  let duration ← clock.sub e.resource.start
  if duration.nonpositive then pure none
  else
    let perSecond ← Number.quotient e.transferred duration
    let whole ← Number.integerPart perSecond
    pure (some whole)

def throughput (f : SizeFormat) (clock : Number) (e : Event) : Except Fault String := do
  match ← rate clock e with
  | none => pure ""
  | some perSecond =>
    let size ← f.format perSecond
    pure (" at " ++ size ++ "/s")

def succeeded (f : SizeFormat) (clock : Number) (e : Event) : Except Fault String := do
  let size ← f.format e.transferred
  let speed ← throughput f clock e
  let done := match e.direction with
    | .download => "Downloaded from"
    | .upload => "Uploaded to"
  pure (done ++ " " ++ e.resource.repository ++ ": " ++ e.url ++ " (" ++ size ++ speed ++ ")")

/-- The whole that a part is shown of: never less than the part, unless it is unknown. -/
def raisedTotal (part whole : Int) : Int :=
  if 0 ≤ whole then max whole part else whole

def progress (f : SizeFormat) (e : Event) : Except Fault String :=
  f.progress e.transferred (raisedTotal e.transferred e.resource.length)

end TransferReport.Message
