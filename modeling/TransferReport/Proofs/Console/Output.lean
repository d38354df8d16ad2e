import TransferReport.Proofs.Console.Transition

/-!
# What the console prints

Every call has a message: a line when a transfer is initiated or ends, and nothing while it moves.
A call without a fault prints its message and nothing else, but for the empty line that stopping
the bar prints before it.  A console without a bar keeps no state, and the message is all it needs.
-/

namespace TransferReport.Console

open Reporter (Call)

variable {c : Console} {bar : ProgressBar} {call : Call}

/-- What a call prints about its transfer. -/
def message (call : Call) : Except Fault String :=
  match call.stage with
  | .initiated => .ok (Terminal.println call.desk.emojis (Message.initiated call.event))
  | .started | .progressed => .ok ""
  | .corrupted | .succeeded | .failed =>
    (lastLine call.desk.format call.desk.clock call.stage call.event).map (Terminal.println call.desk.emojis)

/-- The empty line that a call prints before its message when it stops the bar. -/
def stopLine (call : Call) (c : Console) : String :=
  if call.stage.ends && c.underWay.isEmpty then "\n" else ""

theorem message_of_moves (stage : call.stage.moves) : message call = .ok "" := by
  unfold message
  cases hstage : call.stage with
  | started | progressed => rfl
  | initiated | corrupted | succeeded | failed =>
    rw [hstage] at stage
    exact absurd stage Bool.false_ne_true

theorem message_of_ends (stage : call.stage.ends) :
    message call =
      (lastLine call.desk.format call.desk.clock call.stage call.event).map (Terminal.println call.desk.emojis) := by
  unfold message
  cases hstage : call.stage with
  | corrupted | succeeded | failed => rfl
  | initiated | started | progressed =>
    rw [hstage] at stage
    exact absurd stage Bool.false_ne_true

theorem stopLine_of_not_ends (stage : ¬ call.stage.ends) (c : Console) : stopLine call c = "" := by
  unfold stopLine
  rw [Bool.eq_false_iff.mpr stage, Bool.false_and]
  rfl

/-- The conclusion of a step is quiet exactly if there is a message to print. -/
theorem conclude_of_message (stage : call.stage.ends) {text : String}
    (told : message call = .ok text) (c : Console) (printed : String) :
    conclude call c printed = ⟨c, printed ++ text, [], none⟩ := by
  rw [message_of_ends stage] at told
  unfold conclude
  cases last : lastLine call.desk.format call.desk.clock call.stage call.event with
  | error fault =>
    rw [last] at told
    cases told
  | ok line =>
    rw [last] at told
    cases told
    rfl

theorem exists_message_of_conclude (stage : call.stage.ends) {c : Console} {printed : String}
    (quiet : (conclude call c printed).fault = none) : ∃ text, message call = .ok text := by
  rw [message_of_ends stage]
  unfold conclude at quiet
  cases last : lastLine call.desk.format call.desk.clock call.stage call.event with
  | error fault =>
    rw [last] at quiet
    exact absurd quiet (Option.some_ne_none fault)
  | ok line => exact ⟨_, rfl⟩

/-- A call without a fault prints its message, after an empty line if it stops the bar. -/
theorem out_of_quiet (shows : c.bar = some bar) (quiet : (c.step call).fault = none) :
    ∃ text, message call = .ok text ∧
      (c.step call).out = stopLine call (c.step call).state ++ text := by
  have move := step_transition call shows
  generalize c.step call = s at move quiet ⊢
  cases move with
  | announced stage =>
    have going : ¬ call.stage.ends := by
      rw [stage]
      exact Bool.false_ne_true
    have told : message call = .ok (Terminal.println call.desk.emojis (Message.initiated call.event)) := by
      unfold message
      rw [stage]
    refine ⟨_, told, ?_⟩
    rw [stopLine_of_not_ends going, String.empty_append]
  | advanced stage | created stage =>
    have going : ¬ call.stage.ends := fun ends ↦ Stage.not_moves_of_ends ends stage
    refine ⟨"", message_of_moves stage, ?_⟩
    rw [stopLine_of_not_ends going, String.empty_append]
  | lost | orphaned | unstarted | unremoved | interrupted =>
    exact absurd quiet (Option.some_ne_none _)
  | left stage busy =>
    obtain ⟨text, told⟩ := exists_message_of_conclude stage quiet
    have line :
        stopLine call ⟨some (c.freed bar call.event.url), c.others call.event.url⟩ = "" := by
      unfold stopLine
      rw [List.isEmpty_eq_false_iff.mpr busy, Bool.and_false, if_neg Bool.false_ne_true]
    refine ⟨text, told, ?_⟩
    rw [conclude_of_message stage told, line]
  | stopped stage alone drawn =>
    obtain ⟨text, told⟩ := exists_message_of_conclude stage quiet
    have line : stopLine call ⟨some { c.freed bar call.event.url with running := false }, []⟩ =
        "\n" := by
      unfold stopLine
      rw [stage, List.isEmpty_nil, Bool.and_true, if_pos rfl]
    refine ⟨text, told, ?_⟩
    rw [conclude_of_message stage told, line]

/-- Without a bar a call prints its message, or fails for want of one. -/
theorem step_new_false (call : Call) :
    (new false).step call = match message call with
      | .ok text => ⟨new false, text, [], none⟩
      | .error fault => ⟨new false, "", [], some fault⟩ := by
  cases stage : call.stage with
  | initiated => simp only [step, report, message, stage]
  | started | progressed =>
    simp only [step, report, message, stage]
    rfl
  | corrupted | succeeded | failed =>
    have ends : call.stage.ends := by
      rw [stage]
      rfl
    rw [step_of_ends ends, message_of_ends ends]
    unfold close
    cases lastLine call.desk.format call.desk.clock call.stage call.event with
    | error fault => rfl
    | ok line => exact congrArg (Step.mk _ · _ _) (String.empty_append)

theorem step_new_false_of_message {text : String} (told : message call = .ok text) :
    (new false).step call = ⟨new false, text, [], none⟩ := by
  rw [step_new_false, told]

theorem out_new_false_of_quiet (quiet : ((new false).step call).fault = none) :
    ∃ text, message call = .ok text ∧ ((new false).step call).out = text := by
  rw [step_new_false] at quiet ⊢
  cases told : message call with
  | error fault =>
    rw [told] at quiet
    cases quiet
  | ok text => exact ⟨text, rfl, rfl⟩

theorem state_step_new_false (call : Call) : ((new false).step call).state = new false := by
  rw [step_new_false]
  split <;> rfl

@[simp]
theorem after_new_false (calls : List Call) : (new false).after calls = new false := by
  induction calls with
  | nil => rfl
  | cons call calls ih => rw [after_cons, state_step_new_false, ih]

end TransferReport.Console
