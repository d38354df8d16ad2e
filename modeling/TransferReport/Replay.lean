import TransferReport.Reporter.Basic

/-!
# Replays

A replay reports a whole transfer of a given size without moving anything: the resource is
initiated and started, then progress is told chunk by chunk until the size is reached, and the
transfer succeeds.  The first fault ends the replay.
-/

namespace TransferReport.Replay

/-- The numbers from `first` on, in equal steps, as long as they lie below `limit`. -/
def progression (first limit step : Int) : List Int :=
  if 0 < step ∧ first < limit then first :: progression (first + step) limit step else []
termination_by (limit - first).toNat
decreasing_by omega

/-- What has been transferred after each chunk: the size in place of the last multiple. -/
def amounts (size chunk : Int) : List Int :=
  (progression chunk (size + chunk) chunk).map fun transferred => min transferred size

/-- The stages of a replay, each with what has been transferred. -/
def calls (size chunk : Int) : List (Stage × Int) :=
  (.initiated, 0) :: (.started, 0) ::
    ((amounts size chunk).map fun transferred => (.progressed, transferred)) ++ [(.succeeded, size)]

/-- The effect of a replay: the state after it, what was printed and recorded, the calls that were
made, and its last event. -/
structure Outcome (State : Type) where
  state : State
  out : String
  records : List Record
  made : List (Stage × Int)
  result : Except Fault Event

def event (direction : Direction) (resource : Resource) (transferred : Int) : Event :=
  ⟨direction, resource, transferred, none⟩

/-- Makes the calls in order up to the first fault; `last` is the event of the whole replay. -/
def follow {State : Type} (report : State → Stage → Event → Step State) (event : Int → Event)
    (last : Event) : State → List (Stage × Int) → Outcome State
  | state, [] => ⟨state, "", [], [], .ok last⟩
  | state, call :: rest =>
    let step := report state call.1 (event call.2)
    match step.fault with
    | some fault => ⟨step.state, step.out, step.records, [call], .error fault⟩
    | none =>
      let after := follow report event last step.state rest
      { after with
        out := step.out ++ after.out
        records := step.records ++ after.records
        made := call :: after.made }

def announcement (direction : Direction) (resource : Resource) (size : Int) : Except Fault String :=
  if Text.isWritable size then
    .ok ("Replay " ++ direction.request ++ " " ++ resource.url ++ " (" ++ toString size
      ++ " bytes)")
  else .error .unwritableInteger

/-- Announces a replay in the log.  Below the threshold the announcement is not even made. -/
def announce (threshold : Nat) (direction : Direction) (resource : Resource) (size : Int) :
    List Record × Option Fault :=
  if threshold ≤ Level.debug.severity then
    LogReport.emit threshold .debug (announcement direction resource size)
  else ([], none)

def run {State : Type} (report : State → Stage → Event → Step State) (threshold : Nat)
    (direction : Direction) (resource : Resource) (size chunk : Int) (state : State) :
    Outcome State :=
  if chunk ≤ 0 then ⟨state, "", [], [], .error (Fault.chunkNotPositive chunk).raised⟩
  else
    match announce threshold direction resource size with
    | (records, some fault) => ⟨state, "", records, [], .error fault⟩
    | (records, none) =>
      let last := event direction resource size
      let after := follow report (event direction resource) last state (calls size chunk)
      { after with records := records ++ after.records }

def toReporter (desk : Desk) (r : Reporter) (direction : Direction) (resource : Resource)
    (size chunk : Int) : Outcome Reporter :=
  run (fun r stage e => Reporter.report desk r stage e) desk.threshold direction resource size
    chunk r

end TransferReport.Replay
