import TransferReport.Proofs.Console.Output
import TransferReport.Proofs.Console.Tidy
import TransferReport.Proofs.Fault

/-!
# The same news from three reporters

A console with a bar, a console without one and the log tell the same about every transfer.  The
console without a bar and the log keep no state, so each of their steps depends on its call alone;
and a call that meets no fault with a bar has a message that can be made, which is all that the
other two need.  The bar adds empty lines, one at each end of a transfer that leaves no other under
way.
-/

namespace TransferReport

open Reporter (Call)

/-- A reporter that every call leaves as it is takes the steps of the calls on their own. -/
theorem Reporter.run_of_stateless {r : Reporter} {calls : List Call}
    (stays : ∀ call ∈ calls, (r.report call.desk call.stage call.event).state = r) :
    r.run calls = calls.map fun call ↦ r.report call.desk call.stage call.event := by
  induction calls with
  | nil => rfl
  | cons call calls ih =>
    rw [List.forall_mem_cons] at stays
    rw [run, List.map_cons, stays.1, ih stays.2]

/-- The level of the news of a stage; a transfer that only moves makes no news. -/
def Stage.level? : Stage → Option Level
  | initiated | succeeded => some .info
  | corrupted => some .warning
  | failed => some .error
  | started | progressed => none

/-- What the console writes before the news of a stage, where the log has a level. -/
def Stage.label : Stage → String
  | corrupted => "[WARNING] "
  | failed => "[ERROR] "
  | _ => ""

/-- The same call for a log with another threshold. -/
def Reporter.Call.withThreshold (threshold : ℕ) (call : Call) : Call :=
  { call with desk := { call.desk with threshold := threshold } }

/-- The steps of one call with a bar, without one and in the log tell the same. -/
structure SameNews (call : Call) (withBar withoutBar logged : Step Reporter) : Prop where
  quiet : withoutBar.fault = none ∧ logged.fault = none
  /-- The bar adds nothing but the empty line where it is stopped. -/
  bar : ∃ c, withBar.state = .console c ∧
    withBar.out = Console.stopLine call c ++ withoutBar.out
  /-- The console prints what the log records. -/
  news : match call.stage.level? with
    | none => withoutBar.out = "" ∧ logged.records = []
    | some level => ∃ text, logged.records = [⟨level, text⟩] ∧
        withoutBar.out = Terminal.println call.desk.emojis (call.stage.label ++ text)

namespace Console

variable {c : Console} {bar : ProgressBar} {call : Call}

/-- A message that can be made is a record of the log, or nothing at all. -/
theorem report_log_of_message {text : String} (told : message call = .ok text) :
    ∃ records, Reporter.log.report (call.withThreshold Level.info.severity).desk call.stage
        call.event = ⟨.log, "", records, none⟩ ∧
      match call.stage.level? with
      | none => text = "" ∧ records = []
      | some level => ∃ line, records = [⟨level, line⟩] ∧
          text = Terminal.println call.desk.emojis (call.stage.label ++ line) := by
  unfold message at told
  cases stage : call.stage with
  | initiated =>
    rw [stage] at told
    refine ⟨_, rfl, _, rfl, ?_⟩
    rw [← Except.ok.inj told]
    rfl
  | started | progressed =>
    rw [stage] at told
    exact ⟨_, rfl, (Except.ok.inj told).symm, rfl⟩
  | corrupted | failed =>
    rw [stage] at told
    exact ⟨_, rfl, _, rfl, (Except.ok.inj told).symm⟩
  | succeeded =>
    rw [stage] at told
    obtain ⟨line, hline, rfl⟩ := exists_of_map_eq_ok told
    have hlog : Reporter.log.report (call.withThreshold Level.info.severity).desk .succeeded
        call.event = ⟨.log, "", [⟨.info, line⟩], none⟩ := by
      have hsucceeded :
          Message.succeeded call.desk.format call.desk.clock call.event = .ok line := hline
      simp only [Reporter.report, LogReport.report, Reporter.Call.withThreshold, hsucceeded]
      rfl
    exact ⟨_, hlog, line, rfl, rfl⟩

/-! ## Runs -/

theorem run_new_false_cons (call : Call) (calls : List Call) :
    (Reporter.console (new false)).run (call :: calls) =
      ((new false).step call).map .console :: (Reporter.console (new false)).run calls := by
  rw [run_console_cons, state_step_new_false]

theorem sameNews_step (shows : c.bar = some bar) (quiet : (c.step call).fault = none) :
    SameNews call ((c.step call).map .console) (((new false).step call).map .console)
      (Reporter.log.report (call.withThreshold Level.info.severity).desk call.stage
        call.event) := by
  obtain ⟨text, told, hout⟩ := out_of_quiet shows quiet
  obtain ⟨records, hlog, hnews⟩ := report_log_of_message told
  rw [step_new_false_of_message told, hlog]
  exact ⟨⟨rfl, rfl⟩, ⟨(c.step call).state, rfl, hout⟩, hnews⟩

/-- From any console with a bar on, a run without a fault tells what the other two tell. -/
theorem sameNews_run (shows : c.bar = some bar) {calls : List Call}
    (quiet : ∀ step ∈ (Reporter.console c).run calls, step.fault = none) {i : ℕ}
    (made : calls[i]? = some call) :
    ∃ withBar withoutBar logged, ((Reporter.console c).run calls)[i]? = some withBar ∧
      ((Reporter.console (new false)).run calls)[i]? = some withoutBar ∧
      (Reporter.log.run (calls.map (Call.withThreshold Level.info.severity)))[i]? = some logged ∧
      SameNews call withBar withoutBar logged := by
  induction calls generalizing c bar i with
  | nil => cases made
  | cons first calls ih =>
    rw [run_console_cons, List.forall_mem_cons] at quiet
    rw [run_console_cons, run_new_false_cons]
    cases i with
    | zero =>
      obtain rfl : first = call := Option.some.inj made
      exact ⟨_, _, _, rfl, rfl, rfl, sameNews_step shows quiet.1⟩
    | succ i =>
      obtain ⟨next, hnext⟩ := exists_bar_step shows first
      exact ih hnext quiet.2 made

theorem urls_run_new_false (calls : List Call) :
    ∀ step ∈ (Reporter.console (new false)).run calls,
      ∃ c, step.state = .console c ∧ c.urls = [] := by
  induction calls with
  | nil => exact fun _ made ↦ absurd made List.not_mem_nil
  | cons call calls ih =>
    rw [run_new_false_cons, List.forall_mem_cons]
    refine ⟨⟨((new false).step call).state, rfl, ?_⟩, ih⟩
    rw [state_step_new_false]
    rfl

/-- Whenever the calls of a session meet no fault with a bar, they meet none without a bar and none
in the log, and every call tells the same there.  A console without a bar never has a transfer under
way. -/
theorem sessions_agree (calls : List Call) :
    (∀ step ∈ (Reporter.console (new false)).run calls,
      ∃ c, step.state = .console c ∧ c.urls = []) ∧
    ((∀ step ∈ (Reporter.console (new true)).run calls, step.fault = none) →
      ∀ (i : ℕ) call, calls[i]? = some call →
        ∃ withBar withoutBar logged, ((Reporter.console (new true)).run calls)[i]? = some withBar ∧
          ((Reporter.console (new false)).run calls)[i]? = some withoutBar ∧
          (Reporter.log.run (calls.map (Call.withThreshold Level.info.severity)))[i]? =
            some logged ∧
          SameNews call withBar withoutBar logged) :=
  ⟨urls_run_new_false calls, fun quiet _ _ made ↦ sameNews_run rfl quiet made⟩

/-- Two downloads that overlap: the end of the first one leaves the bar, that of the second one
stops it. -/
def overlap : List Call :=
  [download .started "a" 5 0, download .started "b" 7 2, download .failed "a" 5 3,
    download .corrupted "b" 7 7]

theorem sessions_agree_overlap :
    (∀ step ∈ (Reporter.console (new true)).run overlap, step.fault = none) ∧
      overlap[3]? = some (download .corrupted "b" 7 7) ∧
      ∃ withBar withoutBar logged,
        ((Reporter.console (new true)).run overlap)[3]? = some withBar ∧
        ((Reporter.console (new false)).run overlap)[3]? = some withoutBar ∧
        (Reporter.log.run (overlap.map (Call.withThreshold Level.info.severity)))[3]? =
          some logged ∧
        SameNews (download .corrupted "b" 7 7) withBar withoutBar logged := by
  have quiet : ∀ step ∈ (Reporter.console (new true)).run overlap, step.fault = none := by
    decide +kernel
  exact ⟨quiet, rfl, (sessions_agree overlap).2 quiet 3 _ rfl⟩

end Console

end TransferReport
