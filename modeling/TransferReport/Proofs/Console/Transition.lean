import TransferReport.Proofs.Console.Stores

/-!
# Transitions of the console

Everything that one call can do to a console with a bar is one of ten transitions: six places of a
call may meet a fault, and each leaves the console in another state.  What is proved of a console
with a bar splits over the transitions and never opens the report itself.  A run is a sequence of
calls; its trace keeps the effect of every call, whether it met a fault or not.
-/

namespace TransferReport

open Reporter (Call)

/-- The stages that show how much of a transfer is done. -/
def Stage.moves : Stage → Bool
  | started | progressed => true
  | _ => false

/-- The stages that end a transfer. -/
def Stage.ends : Stage → Bool
  | corrupted | succeeded | failed => true
  | _ => false

theorem Stage.not_moves_of_ends {stage : Stage} (ends : stage.ends) : ¬ stage.moves := by
  cases stage with
  | corrupted | succeeded | failed => exact Bool.false_ne_true
  | initiated | started | progressed => exact absurd ends Bool.false_ne_true

namespace Console

/-- The effect of one call. -/
def step (c : Console) (call : Call) : Step Console :=
  c.report call.desk.emojis call.desk.format call.desk.clock call.stage call.event

/-- The console that a sequence of calls leaves. -/
def after (c : Console) (calls : List Call) : Console :=
  calls.foldl (fun c call ↦ (c.step call).state) c

/-- A sequence of calls, each with its effect. -/
def trace (c : Console) : List Call → List (Call × Step Console)
  | [] => []
  | call :: calls => (call, c.step call) :: trace (c.step call).state calls

@[simp]
theorem after_nil (c : Console) : c.after [] = c := rfl

@[simp]
theorem after_cons (c : Console) (call : Call) (calls : List Call) :
    c.after (call :: calls) = (c.step call).state.after calls := rfl

theorem after_append (c : Console) (calls more : List Call) :
    c.after (calls ++ more) = (c.after calls).after more :=
  List.foldl_append

@[simp]
theorem trace_cons (c : Console) (call : Call) (calls : List Call) :
    c.trace (call :: calls) = (call, c.step call) :: (c.step call).state.trace calls := rfl

theorem run_console_cons (c : Console) (call : Call) (calls : List Call) :
    (Reporter.console c).run (call :: calls) =
      (c.step call).map .console :: (Reporter.console (c.step call).state).run calls := rfl

/-- The end of a step that prints the last line of a transfer after what it has printed before. -/
def conclude (call : Call) (c : Console) (printed : String) : Step Console :=
  match lastLine call.desk.format call.desk.clock call.stage call.event with
  | .error fault => ⟨c, printed, [], some fault⟩
  | .ok line => ⟨c, printed ++ Terminal.println call.desk.emojis line, [], none⟩

@[simp]
theorem conclude_state (call : Call) (c : Console) (printed : String) :
    (conclude call c printed).state = c := by
  unfold conclude
  split <;> rfl

/-- The task of a transfer is in the bar, if the transfer is under way. -/
def Live (c : Console) (bar : ProgressBar) (url : String) : Prop :=
  ∀ id, c.underWay.lookup url = some id → id ∈ bar.tasks.map Task.id

/-- What a call does to a console whose bar is `bar`. -/
inductive Transition (call : Call) (c : Console) (bar : ProgressBar) : Step Console → Prop
  | announced (stage : call.stage = .initiated) :
      Transition call c bar
        ⟨c, Terminal.println call.desk.emojis (Message.initiated call.event), [], none⟩
  | advanced (stage : call.stage.moves) (id : ℕ)
      (known : c.underWay.lookup call.event.url = some id) (live : id ∈ bar.tasks.map Task.id) :
      Transition call c bar
        ⟨{ c with bar := some (bar.withCompleted id (.int call.event.transferred)) }, "", [], none⟩
  /-- The transfer is recorded, but its task is not in the bar. -/
  | lost (stage : call.stage.moves) (id : ℕ)
      (known : c.underWay.lookup call.event.url = some id) (gone : id ∉ bar.tasks.map Task.id) :
      Transition call c bar ⟨⟨some bar, c.underWay⟩, "", [], some (.unknownTask id)⟩
  /-- The task is in the bar, but the transfer is not recorded. -/
  | orphaned (stage : call.stage.moves) (new : c.underWay.lookup call.event.url = none)
      (running : bar.running = true) (fault : Fault)
      (drawn : (bar.grown call.event).fault? call.desk.format = some fault) :
      Transition call c bar ⟨{ c with bar := some (bar.grown call.event) }, "", [], some fault⟩
  /-- The transfer is recorded, but the bar does not run. -/
  | unstarted (stage : call.stage.moves) (new : c.underWay.lookup call.event.url = none)
      (idle : bar.running = false) (fault : Fault)
      (drawn : (bar.grown call.event).fault? call.desk.format = some fault) :
      Transition call c bar
        ⟨⟨some (bar.grown call.event), c.underWay ++ [(call.event.url, bar.nextId)]⟩, "", [],
          some fault⟩
  | created (stage : call.stage.moves) (new : c.underWay.lookup call.event.url = none)
      (drawn : (bar.grown call.event).fault? call.desk.format = none) :
      Transition call c bar
        ⟨⟨some ({ bar.grown call.event with running := true }.withCompleted bar.nextId
            (.int call.event.transferred)), c.underWay ++ [(call.event.url, bar.nextId)]⟩, "", [],
          none⟩
  /-- The transfer is forgotten, but its task is not in the bar. -/
  | unremoved (stage : call.stage.ends) (id : ℕ)
      (known : c.underWay.lookup call.event.url = some id) (gone : id ∉ bar.tasks.map Task.id) :
      Transition call c bar
        ⟨⟨some bar, c.others call.event.url⟩, "", [], some (.unknownTask id)⟩
  | left (stage : call.stage.ends) (busy : c.others call.event.url ≠ [])
      (live : c.Live bar call.event.url) :
      Transition call c bar
        (conclude call ⟨some (c.freed bar call.event.url), c.others call.event.url⟩ "")
  /-- The bar is stopped, but its last drawing meets a fault. -/
  | interrupted (stage : call.stage.ends) (alone : c.others call.event.url = [])
      (running : bar.running = true) (fault : Fault)
      (drawn : (c.freed bar call.event.url).fault? call.desk.format = some fault)
      (live : c.Live bar call.event.url) :
      Transition call c bar
        ⟨⟨some { c.freed bar call.event.url with running := false }, []⟩, "", [], some fault⟩
  | stopped (stage : call.stage.ends) (alone : c.others call.event.url = [])
      (drawn : bar.running = true → (c.freed bar call.event.url).fault? call.desk.format = none)
      (live : c.Live bar call.event.url) :
      Transition call c bar
        (conclude call ⟨some { c.freed bar call.event.url with running := false }, []⟩ "\n")

/-! ## Every call is a transition -/

variable {call : Call} {c : Console} {bar : ProgressBar}

/-- A step that shows progress, from what the update gives. -/
theorem step_of_moves (stage : call.stage.moves) :
    c.step call =
      ⟨(c.update call.desk.format call.event).1, "", [],
        (c.update call.desk.format call.event).2⟩ := by
  unfold step report
  cases hstage : call.stage with
  | started | progressed => rfl
  | initiated | corrupted | succeeded | failed =>
    rw [hstage] at stage
    exact absurd stage Bool.false_ne_true

theorem step_of_ends (stage : call.stage.ends) :
    c.step call =
      c.close call.desk.emojis call.desk.format call.desk.clock call.stage call.event := by
  unfold step report
  cases hstage : call.stage with
  | corrupted | succeeded | failed => rfl
  | initiated | started | progressed =>
    rw [hstage] at stage
    exact absurd stage Bool.false_ne_true

theorem update_of_known {id : ℕ} (shows : c.bar = some bar)
    (known : c.underWay.lookup call.event.url = some id) :
    c.update call.desk.format call.event =
      ({ c with bar := some (bar.complete id (.int call.event.transferred)).1 },
        (bar.complete id (.int call.event.transferred)).2) := by
  simp only [update, shows, known]

/-- A new task is drawn with the others before its transfer is recorded if the bar runs, and
afterwards if it does not. -/
theorem update_of_fault {fault : Fault} (shows : c.bar = some bar)
    (new : c.underWay.lookup call.event.url = none)
    (drawn : (bar.grown call.event).fault? call.desk.format = some fault) :
    c.update call.desk.format call.event =
      (⟨some (bar.grown call.event),
        if bar.running then c.underWay else c.underWay ++ [(call.event.url, bar.nextId)]⟩,
        some fault) := by
  unfold ProgressBar.grown at drawn ⊢
  cases running : bar.running with
  | true =>
    simp only [update, shows, new, ProgressBar.add, running, drawn, if_true]
  | false =>
    have idle : (bar.withTask call.event.resource.name
        (knownLength call.event.resource.length)).running = false := running
    simp only [update, shows, new, ProgressBar.add, ProgressBar.start, running, idle, drawn,
      Bool.false_eq_true, if_false]

/-- The new task is in the bar that is started with it. -/
theorem complete_grown (bar : ProgressBar) (e : Event) (completed : Number) :
    ProgressBar.complete { bar.grown e with running := true } bar.nextId completed =
      ({ bar.grown e with running := true }.withCompleted bar.nextId completed, none) := by
  apply ProgressBar.complete_of_mem
  change bar.nextId ∈ (bar.grown e).tasks.map Task.id
  rw [ProgressBar.taskIds_grown]
  exact List.mem_append_right _ List.mem_cons_self

theorem update_of_drawn (shows : c.bar = some bar) (new : c.underWay.lookup call.event.url = none)
    (drawn : (bar.grown call.event).fault? call.desk.format = none) :
    c.update call.desk.format call.event =
      (⟨some ({ bar.grown call.event with running := true }.withCompleted bar.nextId
          (.int call.event.transferred)), c.underWay ++ [(call.event.url, bar.nextId)]⟩, none) := by
  have present := complete_grown bar call.event (.int call.event.transferred)
  unfold ProgressBar.grown at drawn present ⊢
  cases running : bar.running with
  | true =>
    have runs : (bar.withTask call.event.resource.name
        (knownLength call.event.resource.length)).running = true := running
    rw [← runs] at present
    simp only [update, shows, new, ProgressBar.add, ProgressBar.start, running, runs, drawn,
      if_true, present]
  | false =>
    have idle : (bar.withTask call.event.resource.name
        (knownLength call.event.resource.length)).running = false := running
    simp only [update, shows, new, ProgressBar.add, ProgressBar.start, running, idle, drawn,
      Bool.false_eq_true, if_false, present]

theorem transition_of_moves (shows : c.bar = some bar) (stage : call.stage.moves) :
    Transition call c bar (c.step call) := by
  rw [step_of_moves stage]
  cases known : c.underWay.lookup call.event.url with
  | some id =>
    rw [update_of_known shows known]
    by_cases live : id ∈ bar.tasks.map Task.id
    · rw [ProgressBar.complete_of_mem live]
      exact .advanced stage id known live
    · rw [ProgressBar.complete_of_notMem live]
      exact .lost stage id known live
  | none =>
    cases drawn : (bar.grown call.event).fault? call.desk.format with
    | none =>
      rw [update_of_drawn shows known drawn]
      exact .created stage known drawn
    | some fault =>
      rw [update_of_fault shows known drawn]
      cases running : bar.running with
      | true => exact .orphaned stage known running fault drawn
      | false => exact .unstarted stage known running fault drawn

/-- The fault of the first event of a transfer is that of drawing the bar with the new task. -/
theorem fault_step_of_new (shows : c.bar = some bar) (stage : call.stage.moves)
    (new : c.underWay.lookup call.event.url = none) :
    (c.step call).fault = (bar.grown call.event).fault? call.desk.format := by
  rw [step_of_moves stage]
  cases drawn : (bar.grown call.event).fault? call.desk.format with
  | none => rw [update_of_drawn shows new drawn]
  | some fault => rw [update_of_fault shows new drawn]

/-- A first event without a fault records its transfer with a new task, and the bar runs. -/
theorem state_step_of_new (shows : c.bar = some bar) (stage : call.stage.moves)
    (new : c.underWay.lookup call.event.url = none) (quiet : (c.step call).fault = none) :
    (c.step call).state =
      ⟨some ({ bar.grown call.event with running := true }.withCompleted bar.nextId
        (.int call.event.transferred)), c.underWay ++ [(call.event.url, bar.nextId)]⟩ := by
  have drawn := (fault_step_of_new shows stage new).symm.trans quiet
  rw [step_of_moves stage, update_of_drawn shows new drawn]

/-- The step that ends a transfer whose task is not in the bar. -/
theorem close_of_notMem {id : ℕ} (shows : c.bar = some bar)
    (known : c.underWay.lookup call.event.url = some id) (gone : id ∉ bar.tasks.map Task.id) :
    c.close call.desk.emojis call.desk.format call.desk.clock call.stage call.event =
      ⟨⟨some bar, c.others call.event.url⟩, "", [], some (.unknownTask id)⟩ := by
  simp only [close, finish, shows, release_of_notMem known gone]
  rfl

/-- The step that ends a transfer while others are under way. -/
theorem close_of_busy (shows : c.bar = some bar) (live : c.Live bar call.event.url)
    (busy : c.others call.event.url ≠ []) :
    c.close call.desk.emojis call.desk.format call.desk.clock call.stage call.event =
      conclude call ⟨some (c.freed bar call.event.url), c.others call.event.url⟩ "" := by
  have remain : (c.others call.event.url).isEmpty = false := List.isEmpty_eq_false_iff.mpr busy
  unfold others at remain
  simp only [close, finish, shows, release_of_mem live, remain, Bool.false_eq_true, if_false]
  rfl

/-- The step that ends the last transfer, when the last drawing of the bar meets no fault. -/
theorem close_of_drawn (shows : c.bar = some bar) (live : c.Live bar call.event.url)
    (alone : c.others call.event.url = [])
    (drawn : bar.running = true →
      (c.freed bar call.event.url).fault? call.desk.format = none) :
    c.close call.desk.emojis call.desk.format call.desk.clock call.stage call.event =
      conclude call ⟨some { c.freed bar call.event.url with running := false }, []⟩ "\n" := by
  unfold others at alone
  simp only [close, finish, shows, alone, release_of_mem live, ProgressBar.stop, freed_running,
    List.isEmpty_nil, if_true]
  cases running : bar.running with
  | true =>
    simp only [drawn running, if_true]
    rfl
  | false =>
    have stays : { c.freed bar call.event.url with running := false } =
        c.freed bar call.event.url := by
      rw [← running, ← freed_running c bar call.event.url]
    rw [stays]
    rfl

theorem close_of_fault {fault : Fault} (shows : c.bar = some bar)
    (live : c.Live bar call.event.url) (alone : c.others call.event.url = [])
    (running : bar.running = true)
    (drawn : (c.freed bar call.event.url).fault? call.desk.format = some fault) :
    c.close call.desk.emojis call.desk.format call.desk.clock call.stage call.event =
      ⟨⟨some { c.freed bar call.event.url with running := false }, []⟩, "", [], some fault⟩ := by
  unfold others at alone
  simp only [close, finish, shows, alone, release_of_mem live, ProgressBar.stop, freed_running,
    List.isEmpty_nil, running, drawn, if_true]

theorem transition_of_live (shows : c.bar = some bar) (stage : call.stage.ends)
    (live : c.Live bar call.event.url) : Transition call c bar (c.step call) := by
  rw [step_of_ends stage]
  by_cases alone : c.others call.event.url = []
  · by_cases drawn : bar.running = true →
        (c.freed bar call.event.url).fault? call.desk.format = none
    · rw [close_of_drawn shows live alone drawn]
      exact .stopped stage alone drawn live
    · obtain ⟨running, faulty⟩ := Classical.not_imp.mp drawn
      obtain ⟨fault, hfault⟩ := Option.ne_none_iff_exists'.mp faulty
      rw [close_of_fault shows live alone running hfault]
      exact .interrupted stage alone running fault hfault live
  · rw [close_of_busy shows live alone]
    exact .left stage alone live

theorem transition_of_ends (shows : c.bar = some bar) (stage : call.stage.ends) :
    Transition call c bar (c.step call) := by
  cases known : c.underWay.lookup call.event.url with
  | none =>
    refine transition_of_live shows stage fun id other ↦ ?_
    rw [known] at other
    cases other
  | some id =>
    by_cases live : id ∈ bar.tasks.map Task.id
    · refine transition_of_live shows stage fun other same ↦ ?_
      obtain rfl : id = other := Option.some.inj (known.symm.trans same)
      exact live
    · rw [step_of_ends stage, close_of_notMem shows known live]
      exact .unremoved stage id known live

/-- A console with a bar makes no steps but the transitions. -/
theorem step_transition (call : Call) (shows : c.bar = some bar) :
    Transition call c bar (c.step call) := by
  cases hstage : call.stage with
  | initiated =>
    have announces : c.step call =
        ⟨c, Terminal.println call.desk.emojis (Message.initiated call.event), [], none⟩ := by
      unfold step report
      rw [hstage]
    rw [announces]
    exact .announced hstage
  | started | progressed =>
    refine transition_of_moves shows ?_
    rw [hstage]
    rfl
  | corrupted | succeeded | failed =>
    refine transition_of_ends shows ?_
    rw [hstage]
    rfl

theorem exists_bar_step (shows : c.bar = some bar) (call : Call) :
    ∃ next, (c.step call).state.bar = some next := by
  have move := step_transition call shows
  generalize c.step call = s at move ⊢
  cases move with
  | announced => exact ⟨bar, shows⟩
  | advanced | lost | orphaned | unstarted | created | unremoved | interrupted => exact ⟨_, rfl⟩
  | left | stopped =>
    rw [conclude_state]
    exact ⟨_, rfl⟩

/-- A call that ends a transfer leaves it forgotten and its task removed, even when the call meets a
fault. -/
theorem exists_state_of_ends (shows : c.bar = some bar) (ends : call.stage.ends) :
    ∃ last, (c.step call).state = ⟨some last, c.others call.event.url⟩ ∧
      last.tasks = (c.freed bar call.event.url).tasks := by
  have move := step_transition call shows
  generalize c.step call = s at move ⊢
  cases move with
  | announced stage =>
    rw [stage] at ends
    exact absurd ends Bool.false_ne_true
  | advanced stage | lost stage | orphaned stage | unstarted stage | created stage =>
    exact absurd stage (Stage.not_moves_of_ends ends)
  | unremoved stage id known gone => exact ⟨bar, rfl, by rw [freed_of_notMem known gone]⟩
  | left =>
    rw [conclude_state]
    exact ⟨_, rfl, rfl⟩
  | interrupted stage alone =>
    rw [alone]
    exact ⟨_, rfl, rfl⟩
  | stopped stage alone =>
    rw [conclude_state, alone]
    exact ⟨_, rfl, rfl⟩

end Console

end TransferReport
