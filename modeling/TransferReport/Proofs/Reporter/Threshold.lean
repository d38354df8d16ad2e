import TransferReport.Proofs.Reporter.Agreement

/-!
# Thresholds of the log

Raising the threshold of the log drops records and nothing else, with one exception.  The text of a
progress record is not made when it would be dropped, so a fault in that text is met at the lower
threshold alone.  All other texts are made before they are dropped, and their faults are met at every
threshold.  Since the log keeps no state, what one call meets does not reach the next one.
-/

namespace TransferReport

open Reporter (Call)

variable {low high : ℕ}

namespace LogReport

/-- The threshold does not decide whether a text can be made. -/
theorem fault_emit (low high : ℕ) (level : Level) (text : Except Fault String) :
    (emit low level text).2 = (emit high level text).2 := by
  cases text with
  | ok text => rfl
  | error fault => rfl

theorem records_emit (h : low ≤ high) (level : Level) (text : Except Fault String) :
    (emit high level text).1 =
      (emit low level text).1.filter fun record ↦ high ≤ record.level.severity := by
  cases text with
  | error fault => rfl
  | ok text =>
    unfold emit record
    by_cases hhigh : high ≤ level.severity
    · simp [hhigh, h.trans hhigh]
    · by_cases hlow : low ≤ level.severity
      · simp [hhigh, hlow]
      · simp [hhigh, hlow]

/-- A text makes at most one record, and none if it cannot be made. -/
theorem length_emit_le (threshold : ℕ) (level : Level) (text : Except Fault String) :
    (emit threshold level text).1.length ≤ 1 ∧
      ((emit threshold level text).2 ≠ none → (emit threshold level text).1 = []) := by
  cases text with
  | error fault => exact ⟨Nat.zero_le 1, fun _ ↦ rfl⟩
  | ok text =>
    refine ⟨?_, fun met ↦ absurd rfl met⟩
    unfold emit record
    split_ifs
    · exact le_rfl
    · exact Nat.zero_le 1

end LogReport

/-- What a call of a stage makes at the higher of two thresholds, beside what it makes at the lower
one. -/
structure Filtered (low high : ℕ) (stage : Stage) (atLow atHigh : Step Reporter) : Prop where
  records : atHigh.records = atLow.records.filter fun record ↦ high ≤ record.level.severity
  fault : ∀ fault, atHigh.fault = some fault → atLow.fault = some fault
  /-- A fault that is not met at the higher threshold was in a progress text. -/
  spared : atLow.fault ≠ none → atHigh.fault = none →
    stage = .progressed ∧ low ≤ Level.debug.severity ∧ Level.debug.severity < high ∧
      atLow.records = [] ∧ atHigh.records = []

namespace LogReport

/-- The step of the log that makes these records or meets this fault. -/
def step (made : List Record × Option Fault) : Step Reporter :=
  ⟨.log, "", made.1, made.2⟩

/-- A text that is made at both thresholds. -/
theorem filtered_emit (h : low ≤ high) (stage : Stage) (level : Level)
    (text : Except Fault String) :
    Filtered low high stage (step (emit low level text)) (step (emit high level text)) := by
  have same := fault_emit low high level text
  refine ⟨records_emit h level text, fun fault met ↦ same.trans met, fun met spared ↦ ?_⟩
  exact absurd (same.trans spared) met

/-- A progress text that is made at the lower threshold alone. -/
theorem filtered_progress (hlow : low ≤ Level.debug.severity) (hhigh : Level.debug.severity < high)
    (text : Except Fault String) :
    Filtered low high .progressed (step (emit low .debug text)) (step ([], none)) := by
  have dropped : (emit high .debug text).1 = [] := by
    cases text with
    | error fault => rfl
    | ok text => exact if_neg hhigh.not_ge
  refine ⟨?_, fun fault met ↦ absurd met.symm (Option.some_ne_none fault), fun met _ ↦ ?_⟩
  · exact dropped.symm.trans (records_emit (hlow.trans hhigh.le) .debug text)
  · exact ⟨rfl, hlow, hhigh, (length_emit_le low .debug text).2 met, rfl⟩

/-- A stage that makes no text at either threshold. -/
theorem filtered_nothing (low high : ℕ) (stage : Stage) :
    Filtered low high stage (step ([], none)) (step ([], none)) :=
  ⟨rfl, fun _ met ↦ met, fun met _ ↦ absurd rfl met⟩

/-- What a stage makes at two thresholds. -/
theorem filtered_report (h : low ≤ high) (f : SizeFormat) (clock : Number) (stage : Stage)
    (e : Event) :
    Filtered low high stage (step (report f clock low stage e))
      (step (report f clock high stage e)) := by
  cases stage with
  | initiated | corrupted | succeeded | failed => exact filtered_emit h _ _ _
  | started => exact filtered_nothing low high _
  | progressed =>
    unfold report
    dsimp only
    rcases Nat.lt_or_ge Level.debug.severity high with hhigh | hhigh
    · rw [if_neg hhigh.not_ge]
      split
      · rename_i hlow
        exact filtered_progress hlow hhigh _
      · exact filtered_nothing low high _
    · rw [if_pos hhigh, if_pos (h.trans hhigh)]
      exact filtered_emit h _ _ _

/-- A call makes at most one record, and none if it meets a fault. -/
theorem length_report_le (f : SizeFormat) (clock : Number) (threshold : ℕ) (stage : Stage)
    (e : Event) :
    (report f clock threshold stage e).1.length ≤ 1 ∧
      ((report f clock threshold stage e).2 ≠ none →
        (report f clock threshold stage e).1 = []) := by
  have nothing : ([] : List Record).length ≤ 1 ∧
      ((none : Option Fault) ≠ none → ([] : List Record) = []) :=
    ⟨Nat.zero_le 1, fun _ ↦ rfl⟩
  cases stage with
  | initiated | corrupted | succeeded | failed => exact length_emit_le _ _ _
  | started => exact nothing
  | progressed =>
    unfold report
    dsimp only
    split
    · exact length_emit_le _ _ _
    · exact nothing

end LogReport

theorem Reporter.run_log (calls : List Call) :
    Reporter.log.run calls =
      calls.map fun call ↦ Reporter.log.report call.desk call.stage call.event :=
  Reporter.run_of_stateless fun _ _ ↦ rfl

/-- At the higher of two thresholds each call makes just those of its records at the lower one that
reach the threshold.  It meets no fault that it does not meet at the lower one, and the fault of a
progress text alone is not met when that text is needed at the lower threshold only; then there is
no record at either.  At any threshold a call makes at most one record, and none if it meets a fault,
and the calls before it, with or without faults, change nothing in what it makes. -/
theorem records_filtered (calls : List Call) {low high : ℕ} (h : low ≤ high) :
    (∀ (i : ℕ) call, calls[i]? = some call →
      ∃ atLow atHigh, (Reporter.log.run (calls.map (Call.withThreshold low)))[i]? = some atLow ∧
        (Reporter.log.run (calls.map (Call.withThreshold high)))[i]? = some atHigh ∧
        Filtered low high call.stage atLow atHigh) ∧
    (∀ step ∈ Reporter.log.run calls,
      step.records.length ≤ 1 ∧ (step.fault ≠ none → step.records = [])) ∧
    ∀ earlier, Reporter.log.run (earlier ++ calls) =
      Reporter.log.run earlier ++ Reporter.log.run calls := by
  refine ⟨fun i call made ↦ ?_, fun step made ↦ ?_, fun earlier ↦ ?_⟩
  · refine ⟨_, _, ?_, ?_, LogReport.filtered_report h call.desk.format call.desk.clock call.stage
      call.event⟩
    · rw [Reporter.run_log, List.getElem?_map, List.getElem?_map, made]
      rfl
    · rw [Reporter.run_log, List.getElem?_map, List.getElem?_map, made]
      rfl
  · rw [Reporter.run_log, List.mem_map] at made
    obtain ⟨call, -, rfl⟩ := made
    exact LogReport.length_report_le _ _ _ _ _
  · rw [Reporter.run_log, Reporter.run_log, Reporter.run_log, List.map_append]

/-- A progress report of a negative count, between two stages that are recorded. -/
def negativeCount : List Call :=
  [Console.download .initiated "a" 5 0, Console.download .progressed "a" 5 (-1),
    Console.download .succeeded "a" 5 5]

theorem records_filtered_negativeCount :
    10 ≤ 20 ∧ negativeCount[1]? = some (Console.download .progressed "a" 5 (-1)) ∧
      (Reporter.log.run (negativeCount.map (Call.withThreshold 10)))[1]? =
        some ⟨.log, "", [], some (.negativeProgress (-1))⟩ ∧
      (Reporter.log.run (negativeCount.map (Call.withThreshold 20)))[1]? =
        some ⟨.log, "", [], none⟩ ∧
      Filtered 10 20 .progressed ⟨.log, "", [], some (.negativeProgress (-1))⟩
        ⟨.log, "", [], none⟩ := by
  obtain ⟨atLow, atHigh, hlow, hhigh, filtered⟩ :=
    (records_filtered negativeCount (by decide : 10 ≤ 20)).1 1 _ rfl
  cases hlow
  cases hhigh
  exact ⟨by decide, rfl, rfl, rfl, filtered⟩

end TransferReport
