import TransferReport.Proofs.Console.Shown
import TransferReport.Proofs.Console.Tidy
import TransferReport.Proofs.Size.Range

/-!
# One text of progress

The log makes the text of progress from an event, the bar from a task.  Both raise a known total to
what has been transferred and take every negative length for an unknown one, each on its own, so
neither can find more transferred than there is.  While a transfer is under way its task carries
what the last event told, and the bar shows what the log would record.
-/

namespace TransferReport

open Reporter (Call)

theorem Number.truncate_ne_beyond (x : Number) (more less : ℤ) :
    x.truncate ≠ .error (.progressBeyondTotal more less) := by
  intro h
  cases x with
  | int n => cases h
  | real x => cases x <;> cases h

namespace Task

theorem wholeTotal_ne_beyond (task : Task) (more less : ℤ) :
    task.wholeTotal ≠ .error (.progressBeyondTotal more less) := by
  unfold wholeTotal
  split
  · exact fun h ↦ by cases h
  · exact Number.truncate_ne_beyond _ more less

/-- Whatever numbers a task holds, it never has more transferred than there is. -/
theorem sizeText_ne_beyond (f : SizeFormat) (task : Task) (more less : ℤ) :
    task.sizeText f ≠ .error (.progressBeyondTotal more less) := by
  apply bind_ne_error (Number.truncate_ne_beyond _ more less)
  intro part
  apply bind_ne_error (task.wholeTotal_ne_beyond more less)
  intro whole
  exact SizeFormat.progress_raisedTotal_ne_beyond more less

/-- An unknown length is shown alike, however it is written. -/
theorem sizeText_eq_progress (f : SizeFormat) {task : Task} {e : Event}
    (htotal : task.total = Console.knownLength e.resource.length)
    (hcompleted : task.completed = .int e.transferred) :
    task.sizeText f = Message.progress f e := by
  by_cases hknown : 0 ≤ e.resource.length
  · have htask : task.sizeText f =
        f.progress e.transferred (Message.raisedTotal e.transferred e.resource.length) := by
      rw [Console.knownLength, if_pos hknown] at htotal
      rw [sizeText, wholeTotal, hcompleted, htotal]
      rfl
    exact htask
  · have htask : task.sizeText f =
        f.progress e.transferred (Message.raisedTotal e.transferred (-1)) := by
      rw [Console.knownLength, if_neg hknown] at htotal
      rw [sizeText, wholeTotal, hcompleted, htotal]
      rfl
    have hunknown : e.resource.length < 0 := not_le.1 hknown
    have hminus : (-1 : ℤ) < 0 := by decide
    rw [htask, Message.progress, SizeFormat.progress_raisedTotal, SizeFormat.progress_raisedTotal,
      if_pos (Or.inl hunknown), if_pos (Or.inl hminus)]

end Task

/-! ## Transfers under way -/

namespace Console

variable {c : Console} {bar : ProgressBar} {creations : List Creation} {call : Call}

/-- After an event without a fault the task of its transfer carries what the event told. -/
theorem Bookkeeping.exists_task_of_moves (h : Bookkeeping bar c.underWay creations)
    (shows : c.bar = some bar) (moves : call.stage.moves) (quiet : (c.step call).fault = none) :
    ∃ next id task, (c.step call).state.bar = some next ∧
      (c.step call).state.underWay.lookup call.event.url = some id ∧
      task ∈ next.tasks ∧ task.id = id ∧ task.completed = .int call.event.transferred := by
  obtain ⟨next, hnext, books⟩ := h.step shows call
  have hshown := h.shown_step_self shows quiet
  rw [advance_of_moves moves] at hshown
  cases known : (c.step call).state.underWay.lookup call.event.url with
  | none =>
    rw [shown_of_unknown known] at hshown
    cases hshown
  | some id =>
    rw [shown_of_lookup hnext known, Option.map_eq_some_iff] at hshown
    obtain ⟨task, found, hshown⟩ := hshown
    exact ⟨next, id, task, hnext, rfl, List.mem_of_find?_eq_some found,
      ProgressBar.id_of_task? found, congrArg Shown.completed hshown⟩

/-- What the log makes of a text of progress: one record of it, or its fault. -/
def logged (e : Event) : Except Fault String → Step Reporter
  | .ok text => ⟨.log, "", [⟨.debug, "Progress " ++ e.url ++ ": " ++ text⟩], none⟩
  | .error fault => ⟨.log, "", [], some fault⟩

theorem report_progressed (f : SizeFormat) (clock : Number) (emojis : Terminal.EmojiNames)
    (e : Event) :
    Reporter.log.report ⟨f, clock, Level.debug.severity, emojis⟩ .progressed e =
      logged e (Message.progress f e) := by
  unfold Reporter.report LogReport.report LogReport.progressText
  cases Message.progress f e with
  | error fault => rfl
  | ok text => rfl

/-- A task and an event of the same length and progress give the same text or the same fault.  The
text is that of the part alone when the length is unknown or reached.  Only a negative part is
refused, and the refusal quotes it, so it is the fault of an invalid argument as long as the part can
be written.  Whatever numbers they hold, neither finds more transferred than there is.  In a run
every event without a fault leaves its transfer with a task that shows what the log records of the
event, if the task was created for the same length. -/
theorem sizeText_eq_logged (f : SizeFormat) :
    (∀ (task : Task) (e : Event), task.total = knownLength e.resource.length →
      task.completed = .int e.transferred → task.sizeText f = Message.progress f e) ∧
    (∀ e, Message.progress f e =
      if e.transferred < 0 then .error (Fault.negativeProgress e.transferred).raised
      else if e.resource.length < 0 ∨ e.resource.length ≤ e.transferred then
        f.format e.transferred
      else f.progress e.transferred e.resource.length) ∧
    (∀ e, ((∃ fault, Message.progress f e = .error fault ∧ fault.errorClass = .invalidArgument) ↔
        e.transferred < 0 ∧ Text.isWritable e.transferred) ∧
      ((∃ fault, Message.progress f e = .error fault ∧ fault.errorClass = .value) ↔
        e.transferred < 0 ∧ ¬ Text.isWritable e.transferred)) ∧
    (∀ (task : Task) (e : Event) (more less : ℤ),
      task.sizeText f ≠ .error (.progressBeyondTotal more less) ∧
        Message.progress f e ≠ .error (.progressBeyondTotal more less)) ∧
    ∀ calls (call : Call), call.stage.moves → (((new true).after calls).step call).fault = none →
      ∃ bar underWay id, (new true).after (calls ++ [call]) = ⟨some bar, underWay⟩ ∧
        underWay.lookup call.event.url = some id ∧
        ∃ task ∈ bar.tasks, task.id = id ∧
          ∃ creation ∈ (new true).creations (calls ++ [call]), creation.Describes task ∧
            (creation.call.event.resource.length = call.event.resource.length →
              task.sizeText f = Message.progress f call.event ∧
              ∀ clock emojis, Reporter.log.report ⟨f, clock, Level.debug.severity, emojis⟩
                  .progressed call.event = logged call.event (task.sizeText f)) := by
  refine ⟨fun task e ↦ Task.sizeText_eq_progress f, fun e ↦ SizeFormat.progress_raisedTotal f _ _,
    fun e ↦ ⟨?_, ?_⟩, fun task e more less ↦ ⟨task.sizeText_ne_beyond f more less,
      SizeFormat.progress_raisedTotal_ne_beyond more less⟩, ?_⟩
  · unfold Message.progress
    rw [SizeFormat.exists_progress_raisedTotal_error_iff (by decide) (by decide),
      Fault.refusalClass_eq_invalidArgument_iff]
  · unfold Message.progress
    rw [SizeFormat.exists_progress_raisedTotal_error_iff (by decide) (by decide),
      Fault.refusalClass_eq_value_iff]
  intro calls call moves quiet
  obtain ⟨before, hbefore, old⟩ := bookkeeping_new calls
  obtain ⟨bar, hbar, books⟩ := bookkeeping_new (calls ++ [call])
  have hafter : (new true).after (calls ++ [call]) =
      (((new true).after calls).step call).state := by
    rw [after_append, after_cons, after_nil]
  obtain ⟨next, id, task, hnext, known, live, hid, hcompleted⟩ :=
    old.exists_task_of_moves hbefore moves quiet
  rw [← hafter] at hnext known
  obtain rfl : bar = next := Option.some.inj (hbar.symm.trans hnext)
  obtain ⟨creation, made, described⟩ := books.described task live
  refine ⟨bar, ((new true).after (calls ++ [call])).underWay, id, ?_, known, task, live, hid,
    creation, made, described, fun hlength ↦ ?_⟩
  · rw [← hbar]
  · have htext : task.sizeText f = Message.progress f call.event :=
      Task.sizeText_eq_progress f (hlength ▸ described.2.2) hcompleted
    refine ⟨htext, fun clock emojis ↦ ?_⟩
    rw [htext, report_progressed]

/-- A task of unknown length, and a download that has moved more than it was to. -/
theorem sizeText_eq_logged_overrun :
    Task.sizeText ⟨.english⟩ ⟨0, "a", knownLength (-7), .int 3⟩ =
      Message.progress ⟨.english⟩ (download .progressed "a" (-7) 3).event ∧
    Stage.moves .progressed ∧
    (((new true).after [download .started "a" 5 0]).step (download .progressed "a" 5 7)).fault =
      none ∧
    ∃ bar underWay id, (new true).after [download .started "a" 5 0, download .progressed "a" 5 7] =
        ⟨some bar, underWay⟩ ∧ underWay.lookup "https://r/a" = some id ∧
      ∃ task ∈ bar.tasks, task.id = id ∧
        ∃ creation ∈ (new true).creations [download .started "a" 5 0, download .progressed "a" 5 7],
          creation.Describes task ∧ (creation.call.event.resource.length = 5 →
            task.sizeText ⟨.english⟩ =
              Message.progress ⟨.english⟩ (download .progressed "a" 5 7).event ∧
            ∀ clock emojis,
              Reporter.log.report ⟨⟨.english⟩, clock, Level.debug.severity, emojis⟩ .progressed
                  (download .progressed "a" 5 7).event =
                logged (download .progressed "a" 5 7).event (task.sizeText ⟨.english⟩)) := by
  obtain ⟨hdisplays, -, -, -, hrun⟩ := sizeText_eq_logged ⟨.english⟩
  have quiet : (((new true).after [download .started "a" 5 0]).step
      (download .progressed "a" 5 7)).fault = none := by
    decide +kernel
  exact ⟨hdisplays ⟨0, "a", knownLength (-7), .int 3⟩
      (download .progressed "a" (-7) 3).event rfl rfl, rfl, quiet,
    hrun [download .started "a" 5 0] (download .progressed "a" 5 7) rfl quiet⟩

/-- A negative part of more digits than can be written is not refused as an invalid argument, neither
of an event nor of a task. -/
theorem unwritable_progress :
    (download .progressed "a" 5 (-Text.tooLong)).event.transferred < 0 ∧
    Message.progress ⟨.english⟩ (download .progressed "a" 5 (-Text.tooLong)).event =
      .error .unwritableInteger ∧
    Task.sizeText ⟨.english⟩ ⟨0, "a", knownLength 5, .int (-Text.tooLong)⟩ =
      .error .unwritableInteger ∧
    ¬ ∃ fault, Message.progress ⟨.english⟩ (download .progressed "a" 5 (-Text.tooLong)).event =
      .error fault ∧ fault.errorClass = .invalidArgument := by
  have hneg : -Text.tooLong < 0 := neg_neg_of_pos Text.tooLong_pos
  have hprogress :
      Message.progress ⟨.english⟩ (download .progressed "a" 5 (-Text.tooLong)).event =
        .error .unwritableInteger := by
    have hfault : (Fault.negativeProgress (-Text.tooLong)).raised = .unwritableInteger :=
      Fault.raised_of_unwritable (List.mem_singleton_self _) Text.not_isWritable_neg_tooLong
    rw [← hfault]
    exact SizeFormat.progress_of_neg _ hneg _
  have htask : Task.sizeText ⟨.english⟩ ⟨0, "a", knownLength 5, .int (-Text.tooLong)⟩ =
      .error .unwritableInteger :=
    (Task.sizeText_eq_progress _ rfl rfl).trans hprogress
  refine ⟨hneg, hprogress, htask, ?_⟩
  rintro ⟨fault, hfault, hrefused⟩
  rw [← Except.error.inj (hprogress.symm.trans hfault)] at hrefused
  cases hrefused

end Console

end TransferReport
