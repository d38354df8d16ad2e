import TransferReport.Proofs.Console.Frame
import TransferReport.Proofs.Fault
import TransferReport.Proofs.Replay.Trace

/-!
# The chunks of a replay

The effect of a replay does not depend on the chunk.  Progress of a transfer under way prints
nothing and meets no fault; on the console it changes what is completed of one task, and this task
is removed when the transfer succeeds.  So a replay has the effect of its calls without the
progress, and a replay of a new transfer that meets no fault leaves on the console what was there
before.
-/

namespace TransferReport

open Reporter (Call)

namespace Replay

variable {State : Type} {report : State → Stage → Event → Step State} {toEvent : ℤ → Event}
  {last : Event} {state : State} {call : Stage × ℤ} {rest : List (Stage × ℤ)}

/-- Two outcomes differ in nothing but the calls that led to them. -/
structure SameEffect (one other : Outcome State) : Prop where
  state : one.state = other.state
  out : one.out = other.out
  records : one.records = other.records
  result : one.result = other.result

theorem SameEffect.refl (outcome : Outcome State) : SameEffect outcome outcome :=
  ⟨rfl, rfl, rfl, rfl⟩

theorem SameEffect.symm {one other : Outcome State} (h : SameEffect one other) :
    SameEffect other one :=
  ⟨h.state.symm, h.out.symm, h.records.symm, h.result.symm⟩

theorem SameEffect.trans {one other third : Outcome State} (h : SameEffect one other)
    (h' : SameEffect other third) : SameEffect one third :=
  ⟨h.state.trans h'.state, h.out.trans h'.out, h.records.trans h'.records,
    h.result.trans h'.result⟩

theorem SameEffect.behind {one other : Outcome State} (h : SameEffect one other)
    (step : Step State) (call : Stage × ℤ) :
    SameEffect (one.behind step call) (other.behind step call) :=
  ⟨h.state, congrArg (step.out ++ ·) h.out, congrArg (step.records ++ ·) h.records, h.result⟩

/-- What follows a call matters only if the call meets no fault. -/
theorem sameEffect_cons {other : List (Stage × ℤ)}
    (h : (report state call.1 (toEvent call.2)).fault = none →
      SameEffect (follow report toEvent last (report state call.1 (toEvent call.2)).state rest)
        (follow report toEvent last (report state call.1 (toEvent call.2)).state other)) :
    SameEffect (follow report toEvent last state (call :: rest))
      (follow report toEvent last state (call :: other)) := by
  cases met : (report state call.1 (toEvent call.2)).fault with
  | some fault =>
    rw [follow_cons_of_fault met, follow_cons_of_fault met]
    exact .refl _
  | none =>
    rw [follow_cons_of_quiet met, follow_cons_of_quiet met]
    exact (h met).behind _ call

/-- Progress may be left out where it is silent, if what follows does not tell apart the states that
it leads to. -/
theorem sameEffect_of_silent (Near : State → Prop)
    (silent : ∀ state, Near state → ∀ amount, ∃ next, Near next ∧
      report state .progressed (toEvent amount) = ⟨next, "", [], none⟩)
    (same : ∀ state next, Near state → Near next →
      follow report toEvent last next rest = follow report toEvent last state rest)
    (amounts : List ℤ) (near : Near state) :
    SameEffect
      (follow report toEvent last state
        (amounts.map (fun amount ↦ (.progressed, amount)) ++ rest))
      (follow report toEvent last state rest) := by
  induction amounts generalizing state with
  | nil => exact .refl _
  | cons amount amounts ih =>
    obtain ⟨next, hnext, hreport⟩ := silent state near amount
    have hrest := ih hnext
    rw [same state next near hnext] at hrest
    have quiet : (report state .progressed (toEvent amount)).fault = none := by rw [hreport]
    rw [List.map_cons, List.cons_append, follow_cons_of_quiet quiet]
    simp only [hreport]
    exact ⟨hrest.state, String.empty_append.trans hrest.out, hrest.records, hrest.result⟩

/-! ## Calls without progress -/

/-- The calls of a replay that tell no progress. -/
def bareCalls (size : ℤ) : List (Stage × ℤ) :=
  [(.initiated, 0), (.started, 0), (.succeeded, size)]

variable {desk : Desk} {threshold : ℕ} {direction : Direction} {resource : Resource} {c : Console}

/-- The success of a transfer depends on the bar without its task only. -/
theorem close_congr {names : Terminal.EmojiNames} {f : SizeFormat} {clock : Number} {stage : Stage}
    {e : Event} {id : ℕ} {underWay : List (String × ℕ)} {one other : ProgressBar}
    (known : underWay.lookup e.url = some id) (live : id ∈ one.tasks.map Task.id)
    (alive : id ∈ other.tasks.map Task.id) (same : one.without id = other.without id) :
    Console.close names f clock ⟨some one, underWay⟩ stage e =
      Console.close names f clock ⟨some other, underWay⟩ stage e := by
  simp only [Console.close, Console.finish, Console.release, known,
    ProgressBar.remove_of_mem live, ProgressBar.remove_of_mem alive, same]

theorem report_console (c : Console) (stage : Stage) (e : Event) :
    Reporter.report desk (.console c) stage e = (c.step ⟨desk, stage, e⟩).map .console := rfl

/-- Progress of a transfer under way is silent, and its task is removed in the end. -/
theorem sameEffect_of_known {bar : ProgressBar} {id : ℕ} (shows : c.bar = some bar)
    (known : c.underWay.lookup resource.url = some id) (live : id ∈ bar.tasks.map Task.id)
    (size : ℤ) (amounts : List ℤ) :
    SameEffect
      (follow (Reporter.report desk) (event direction resource) last (.console c)
        (amounts.map (fun amount ↦ (.progressed, amount)) ++ [(.succeeded, size)]))
      (follow (Reporter.report desk) (event direction resource) last (.console c)
        [(.succeeded, size)]) := by
  refine sameEffect_of_silent
    (fun r ↦ ∃ other : ProgressBar, r = .console ⟨some other, c.underWay⟩ ∧
      id ∈ other.tasks.map Task.id ∧ other.without id = bar.without id) ?_ ?_ amounts
    ⟨bar, by rw [← shows], live, rfl⟩
  · rintro r ⟨other, rfl, alive, hremove⟩ amount
    have found : (Console.mk (some other) c.underWay).underWay.lookup
        (event direction resource amount).url = some id := known
    refine ⟨_, ⟨other.withCompleted id (.int amount), rfl, ?_, ?_⟩, ?_⟩
    · rwa [ProgressBar.taskIds_withCompleted]
    · rw [ProgressBar.without_withCompleted, hremove]
    · rw [report_console, Console.step_of_moves rfl, Console.update_of_known rfl found,
        ProgressBar.complete_of_mem alive]
      rfl
  · rintro r next ⟨one, rfl, live, hone⟩ ⟨other, rfl, alive, hother⟩
    have found : c.underWay.lookup (event direction resource size).url = some id := known
    have hclose : Reporter.report desk (.console ⟨some one, c.underWay⟩) .succeeded
        (event direction resource size) =
        Reporter.report desk (.console ⟨some other, c.underWay⟩) .succeeded
          (event direction resource size) :=
      congrArg (Step.map Reporter.console)
        (close_congr found live alive (hone.trans hother.symm))
    simp only [follow, hclose]

/-- Without a bar, and in a log that keeps no progress, all progress is silent. -/
theorem sameEffect_of_unmoved {r : Reporter}
    (unmoved : ∀ amount, Reporter.report desk r .progressed (event direction resource amount) =
      ⟨r, "", [], none⟩) (amounts : List ℤ) (rest : List (Stage × ℤ)) :
    SameEffect
      (follow (Reporter.report desk) (event direction resource) last r
        (amounts.map (fun amount ↦ (.progressed, amount)) ++ rest))
      (follow (Reporter.report desk) (event direction resource) last r rest) := by
  refine sameEffect_of_silent (· = r) ?_ ?_ amounts rfl
  · rintro _ rfl amount
    exact ⟨_, rfl, unmoved amount⟩
  · rintro _ _ rfl rfl
    rfl

/-- After a start without a fault the transfer is under way, and its task is in the bar. -/
theorem exists_known_of_started {bar : ProgressBar} {call : Call} (shows : c.bar = some bar)
    (moves : call.stage.moves) (quiet : (c.step call).fault = none) :
    ∃ next id, (c.step call).state.bar = some next ∧
      (c.step call).state.underWay.lookup call.event.url = some id ∧
        id ∈ next.tasks.map Task.id := by
  have move := Console.step_transition call shows
  generalize c.step call = s at move quiet ⊢
  cases move with
  | announced stage =>
    rw [stage] at moves
    exact absurd moves Bool.false_ne_true
  | advanced stage id known live =>
    refine ⟨_, id, rfl, known, ?_⟩
    rwa [ProgressBar.taskIds_withCompleted]
  | lost | orphaned | unstarted | unremoved => exact absurd quiet (Option.some_ne_none _)
  | created stage new =>
    refine ⟨_, _, rfl, Console.lookup_append_self new _, ?_⟩
    rw [ProgressBar.taskIds_withCompleted]
    exact (ProgressBar.taskIds_grown bar call.event).symm ▸
      List.mem_append_right _ List.mem_cons_self
  | left stage | interrupted stage | stopped stage =>
    exact absurd moves (Stage.not_moves_of_ends stage)

/-- On the console a replay has the effect of its calls without progress. -/
theorem sameEffect_console (c : Console) (size chunk : ℤ) :
    SameEffect
      (follow (Reporter.report desk) (event direction resource) last (.console c)
        (calls size chunk))
      (follow (Reporter.report desk) (event direction resource) last (.console c)
        (bareCalls size)) := by
  let started : Call := ⟨desk, .started, event direction resource 0⟩
  have moves : started.stage.moves := rfl
  have tail (quiet : (c.step started).fault = none) : SameEffect
      (follow (Reporter.report desk) (event direction resource) last
        (.console (c.step started).state)
        ((amounts size chunk).map (fun amount ↦ (.progressed, amount)) ++ [(.succeeded, size)]))
      (follow (Reporter.report desk) (event direction resource) last
        (.console (c.step started).state) [(.succeeded, size)]) := by
    cases shows : c.bar with
    | none =>
      have stays : (c.step started).state = c := by
        rw [Console.step_of_moves moves, Console.update, shows]
      rw [stays]
      apply sameEffect_of_unmoved
      intro amount
      rw [report_console, Console.step_of_moves rfl, Console.update, shows]
      rfl
    | some bar =>
      obtain ⟨next, id, hnext, known, live⟩ := exists_known_of_started shows moves quiet
      exact sameEffect_of_known hnext known live size _
  exact sameEffect_cons fun _ ↦ sameEffect_cons tail

/-- In a log that keeps no progress a replay has the effect of its calls without progress. -/
theorem sameEffect_log (h : Level.debug.severity < desk.threshold) (size chunk : ℤ) :
    SameEffect
      (follow (Reporter.report desk) (event direction resource) last .log (calls size chunk))
      (follow (Reporter.report desk) (event direction resource) last .log (bareCalls size)) := by
  refine sameEffect_cons fun _ ↦ sameEffect_cons fun _ ↦
    sameEffect_of_unmoved ?_ (amounts size chunk) [(.succeeded, size)]
  intro amount
  simp only [Reporter.report, LogReport.report, if_neg h.not_ge]

/-- Two replays have the same effect if their calls have. -/
theorem SameEffect.run {one other : ℤ} (hone : 0 < one) (hother : 0 < other) {size : ℤ}
    (h : SameEffect
      (follow report (event direction resource) (event direction resource size) state
        (calls size one))
      (follow report (event direction resource) (event direction resource size) state
        (calls size other))) (threshold : ℕ) :
    SameEffect (run report threshold direction resource size one state)
      (run report threshold direction resource size other state) := by
  rcases hannounce : announce threshold direction resource size with ⟨records, fault | fault⟩
  · rw [run_of_announced hone hannounce, run_of_announced hother hannounce]
    exact ⟨h.state, h.out, congrArg (records ++ ·) h.records, h.result⟩
  · rw [run_of_unannounced hone hannounce, run_of_unannounced hother hannounce]
    exact .refl _

/-- A replay that returns an event has been announced. -/
theorem exists_follow_of_returned {chunk : ℤ} (hchunk : 0 < chunk) {size : ℤ} {done : Event}
    (h : (run report threshold direction resource size chunk state).result = .ok done) :
    ∃ records, run report threshold direction resource size chunk state =
      let after := follow report (event direction resource) (event direction resource size) state
        (calls size chunk)
      ⟨after.state, after.out, records ++ after.records, after.made, after.result⟩ := by
  rcases hannounce : announce threshold direction resource size with ⟨records, fault | fault⟩
  · exact ⟨records, run_of_announced hchunk hannounce⟩
  · rw [run_of_unannounced hchunk hannounce] at h
    cases h

/-! ## What a replay leaves -/

theorem quiet_of_result {done : Event}
    (h : (follow report toEvent last state (call :: rest)).result = .ok done) :
    (report state call.1 (toEvent call.2)).fault = none ∧
      (follow report toEvent last (report state call.1 (toEvent call.2)).state rest).result =
        .ok done := by
  cases met : (report state call.1 (toEvent call.2)).fault with
  | some fault =>
    rw [follow_cons_of_fault met] at h
    cases h
  | none =>
    rw [follow_cons_of_quiet met] at h
    exact ⟨rfl, h⟩

/-- The end of a transfer prints its line, after an empty one if that stops the bar. -/
theorem exists_lastLine {call : Call} (reached : c.Reachable) (ends : call.stage.ends)
    (quiet : (c.step call).fault = none) :
    ∃ line, Console.lastLine call.desk.format call.desk.clock call.stage call.event = .ok line ∧
      (c.step call).out =
        (if c.bar.isSome && (c.step call).state.underWay.isEmpty then "\n" else "") ++
          Terminal.println call.desk.emojis line := by
  have hlast {text : String} (told : Console.message call = .ok text) :
      ∃ line, Console.lastLine call.desk.format call.desk.clock call.stage call.event = .ok line ∧
        Terminal.println call.desk.emojis line = text := by
    rw [Console.message_of_ends ends] at told
    exact exists_of_map_eq_ok told
  cases shows : c.bar with
  | none =>
    obtain rfl := reached.eq_new_false shows
    obtain ⟨text, told, hout⟩ := Console.out_new_false_of_quiet quiet
    obtain ⟨line, hline, rfl⟩ := hlast told
    refine ⟨line, hline, ?_⟩
    rw [hout]
    exact String.empty_append.symm
  | some bar =>
    obtain ⟨text, told, hout⟩ := Console.out_of_quiet shows quiet
    obtain ⟨line, hline, rfl⟩ := hlast told
    refine ⟨line, hline, ?_⟩
    rw [hout, Console.stopLine, ends]
    rfl

/-- When a new transfer starts and ends without a fault, nothing of it is left. -/
theorem restored_of_started {started later : Call} (reached : c.Reachable)
    (new : started.event.url ∉ c.urls) (moves : started.stage.moves)
    (quiet : (c.step started).fault = none) (ends : later.stage.ends)
    (same : later.event.url = started.event.url) :
    ((c.step started).state.step later).state.underWay = c.underWay ∧
      ((c.step started).state.step later).state.bar.map ProgressBar.tasks =
        c.bar.map ProgressBar.tasks := by
  cases shows : c.bar with
  | none =>
    obtain rfl := reached.eq_new_false shows
    rw [Console.state_step_new_false, Console.state_step_new_false]
    exact ⟨rfl, rfl⟩
  | some bar =>
    obtain ⟨creations, books⟩ := reached.exists_books shows
    have unknown := Console.lookup_eq_none_iff_notMem.2 new
    have hstate := Console.state_step_of_new shows moves unknown quiet
    have hremoved : (({ bar.grown started.event with running := true }.withCompleted bar.nextId
        (.int started.event.transferred)).without bar.nextId).tasks = bar.tasks := by
      rw [ProgressBar.without_withCompleted]
      exact books.without_grown started.event
    obtain ⟨hrecords, after, hafter, htasks⟩ := Console.restored_of_ends unknown ends same
      (congrArg Console.bar hstate) (congrArg Console.underWay hstate) hremoved
    refine ⟨hrecords, ?_⟩
    rw [hafter, Option.map_some, Option.map_some, htasks]

/-- A replay of a new transfer that meets no fault prints the first line and the last one, with an
empty one between them if the bar is stopped, and leaves nothing of the transfer. -/
theorem left_of_bareCalls (reached : c.Reachable) (new : resource.url ∉ c.urls) {done : Event}
    {size : ℤ} {outcome : Outcome Reporter}
    (houtcome : follow (Reporter.report desk) (event direction resource)
      (event direction resource size) (.console c) (bareCalls size) = outcome)
    (h : outcome.result = .ok done) :
    done = event direction resource size ∧ ∃ after line, outcome.state = .console after ∧
      after.underWay = c.underWay ∧
      after.bar.map ProgressBar.tasks = c.bar.map ProgressBar.tasks ∧
      Message.succeeded desk.format desk.clock done = .ok line ∧
      outcome.out = Terminal.println desk.emojis (Message.initiated done) ++
        ((if c.bar.isSome && c.underWay.isEmpty then "\n" else "") ++
          Terminal.println desk.emojis line) := by
  let started : Call := ⟨desk, .started, event direction resource 0⟩
  let succeeded : Call := ⟨desk, .succeeded, event direction resource size⟩
  have moves : started.stage.moves := rfl
  have ends : succeeded.stage.ends := rfl
  rw [← houtcome] at h
  obtain ⟨initiated, hstarted⟩ := quiet_of_result h
  obtain ⟨quiet, hsucceeded⟩ := quiet_of_result hstarted
  obtain ⟨ended, hdone⟩ := quiet_of_result hsucceeded
  obtain rfl := Except.ok.inj hdone
  obtain ⟨hrecords, htasks⟩ :
      ((c.step started).state.step succeeded).state.underWay = c.underWay ∧
        ((c.step started).state.step succeeded).state.bar.map ProgressBar.tasks =
          c.bar.map ProgressBar.tasks :=
    restored_of_started reached new moves quiet ends rfl
  obtain ⟨line, hline, hout⟩ := exists_lastLine (reached.step started) ends ended
  have hsilent : (c.step started).out = "" := by rw [Console.step_of_moves moves]
  rw [bareCalls, follow_cons_of_quiet initiated, follow_cons_of_quiet quiet,
    follow_cons_of_quiet ended] at houtcome
  subst houtcome
  refine ⟨rfl, _, line, rfl, hrecords, htasks, hline, congrArg (Terminal.println _ _ ++ ·) ?_⟩
  calc
    (c.step started).out ++ (((c.step started).state.step succeeded).out ++ "") =
        ((c.step started).state.step succeeded).out := by
      rw [hsilent, String.empty_append, String.append_empty]
    _ = (if c.bar.isSome && c.underWay.isEmpty then "\n" else "") ++
          Terminal.println desk.emojis line := by
      rw [hout, hrecords, reached.isSome_bar_step]

/-- The effect of a replay on the console does not depend on the chunk, and in the log neither
unless progress is kept there.  A replay of a transfer that is not under way on a reachable console
prints, if it meets no fault, the first line, an empty one if there is a bar and no transfer is
under way, and the last line; afterwards the same transfers are under way as before and the bar has
the same tasks. -/
theorem replay_leaves_no_trace (desk : Desk) (direction : Direction) (resource : Resource)
    (size : ℤ) {one other : ℤ} (hone : 0 < one) (hother : 0 < other) :
    (∀ c : Console,
      SameEffect (toReporter desk (.console c) direction resource size one)
        (toReporter desk (.console c) direction resource size other)) ∧
    (Level.debug.severity < desk.threshold →
      SameEffect (toReporter desk .log direction resource size one)
        (toReporter desk .log direction resource size other)) ∧
    ∀ c : Console, c.Reachable → resource.url ∉ c.urls →
      ∀ outcome done, toReporter desk (.console c) direction resource size one = outcome →
        outcome.result = .ok done →
        done = event direction resource size ∧ ∃ after line, outcome.state = .console after ∧
          after.underWay = c.underWay ∧
          after.bar.map ProgressBar.tasks = c.bar.map ProgressBar.tasks ∧
          Message.succeeded desk.format desk.clock done = .ok line ∧
          outcome.out = Terminal.println desk.emojis (Message.initiated done) ++
            ((if c.bar.isSome && c.underWay.isEmpty then "\n" else "") ++
              Terminal.println desk.emojis line) := by
  refine ⟨fun c ↦ ?_, fun dropped ↦ ?_, fun c reached new outcome done houtcome returned ↦ ?_⟩
  · apply SameEffect.run hone hother
    exact (sameEffect_console c size one).trans (sameEffect_console c size other).symm
  · apply SameEffect.run hone hother
    exact (sameEffect_log dropped size one).trans (sameEffect_log dropped size other).symm
  · have bare : SameEffect
        (follow (Reporter.report desk) (event direction resource) (event direction resource size)
          (.console c) (calls size one))
        (follow (Reporter.report desk) (event direction resource) (event direction resource size)
          (.console c) (bareCalls size)) :=
      sameEffect_console c size one
    subst houtcome
    obtain ⟨records, hrun⟩ := exists_follow_of_returned hone returned
    rw [toReporter, hrun] at returned ⊢
    obtain ⟨hdone, after, line, hstate, hleft⟩ :=
      left_of_bareCalls reached new rfl (bare.result.symm.trans returned)
    rw [← bare.state] at hstate
    rw [← bare.out] at hleft
    exact ⟨hdone, after, line, hstate, hleft⟩

/-- Ten bytes, replayed in chunks of four or all at once beside a download that is under way. -/
theorem replay_leaves_no_trace_besideAnother :
    let desk : Desk := ⟨⟨.english⟩, .int 1, 20, Terminal.emoji?⟩
    let c := (Console.new true).after [Console.download .started "a" 5 0]
    let resource : Resource := ⟨"central", "https://r/", "b", 10, .int 0⟩
    Level.debug.severity < desk.threshold ∧ c.Reachable ∧ resource.url ∉ c.urls ∧
      SameEffect (toReporter desk (.console c) .download resource 10 4)
        (toReporter desk (.console c) .download resource 10 10) ∧
      SameEffect (toReporter desk .log .download resource 10 4)
        (toReporter desk .log .download resource 10 10) ∧
      ∃ done after, (toReporter desk (.console c) .download resource 10 4).result = .ok done ∧
        (toReporter desk (.console c) .download resource 10 4).state = .console after ∧
        after.underWay = [("https://r/a", 0)] := by
  intro desk c resource
  have dropped : Level.debug.severity < desk.threshold := by decide
  have reached : c.Reachable := ⟨true, _, rfl⟩
  have hrecords : c.underWay = [("https://r/a", 0)] := by decide +kernel
  have new : resource.url ∉ c.urls := by
    rw [Console.urls, hrecords]
    decide
  obtain ⟨onConsole, inLog, left⟩ :=
    replay_leaves_no_trace desk .download resource 10 (by decide : (0 : ℤ) < 4)
      (by decide : (0 : ℤ) < 10)
  have quiet : (follow (Reporter.report desk) (event .download resource)
      (event .download resource 10) (.console c) (bareCalls 10)).result.isOk := by
    decide +kernel
  obtain ⟨done, hbare⟩ := exists_of_isOk quiet
  have hdone : (toReporter desk (.console c) .download resource 10 4).result = .ok done := by
    have quietly : announce 20 .download resource 10 = ([], none) := if_neg (by decide)
    rw [toReporter, run_of_announced (by decide) quietly]
    exact (sameEffect_console c 10 4).result.trans hbare
  obtain ⟨-, after, line, hstate, hafter, -⟩ := left c reached new _ done rfl hdone
  exact ⟨dropped, reached, new, onConsole c, inLog dropped, done, after, hdone, hstate,
    hafter.trans hrecords⟩

end Replay

end TransferReport
