import TransferReport.Proofs.Console.Frame

/-!
# The end of a transfer

A call that ends a transfer forgets it and removes its task before anything can fail, so the
transfer is released whether the call meets a fault or not.  A fault arises in one of two places:
where the bar is stopped, before anything is printed, or where the last line is made, after the
empty line that stopping the bar prints.  The line itself is printed as a whole or not at all.
-/

namespace TransferReport

theorem ProgressBar.fault_stop (f : SizeFormat) (bar : ProgressBar) :
    (bar.stop f).2 = if bar.running then bar.fault? f else none := by
  unfold stop
  split <;> rfl

namespace Console

open Reporter (Call)

variable {c : Console} {bar : ProgressBar} {call : Call}

/-- The fault that stopping the bar meets, if the call ends the last transfer under way. -/
def stopFault (c : Console) (call : Call) : Option Fault :=
  c.bar.bind fun bar ↦
    if c.others call.event.url = [] then
      ((c.freed bar call.event.url).stop call.desk.format).2
    else none

theorem stopFault_of_busy (busy : c.others call.event.url ≠ []) : c.stopFault call = none := by
  unfold stopFault
  cases c.bar with
  | none => rfl
  | some bar => exact if_neg busy

theorem stopFault_of_alone (shows : c.bar = some bar) (alone : c.others call.event.url = []) :
    c.stopFault call =
      if bar.running then (c.freed bar call.event.url).fault? call.desk.format else none := by
  unfold stopFault
  rw [shows, Option.bind_some, if_pos alone, ProgressBar.fault_stop, freed_running]

/-- The task of a transfer under way is in the bar, and its end removes it. -/
theorem Bookkeeping.removed_of_ends {creations : List Creation}
    (h : Bookkeeping bar c.underWay creations) (shows : c.bar = some bar) (ends : call.stage.ends)
    {id : ℕ} (known : c.underWay.lookup call.event.url = some id) :
    id ∈ c.taskIds ∧ id ∉ (c.step call).state.taskIds := by
  obtain ⟨last, hstate, htasks⟩ := exists_state_of_ends shows ends
  rw [taskIds_of_bar shows, hstate, taskIds_of_bar rfl, htasks, Console.freed, known]
  refine ⟨h.live _ _ known, ?_⟩
  rw [ProgressBar.taskIds_without]
  simp

/-- How a call that ends a transfer goes: stopping the bar meets a fault, or making the last line
does, or the line is printed.  An empty line may come before it. -/
inductive Ending (call : Call) (c : Console) : Step Console → Prop
  | interrupted (after : Console) (fault : Fault) (stopped : c.stopFault call = some fault) :
      Ending call c ⟨after, "", [], some fault⟩
  | untold (after : Console) (blank : String) (fault : Fault) (stopped : c.stopFault call = none)
      (empty : blank = "" ∨ blank = "\n")
      (last : lastLine call.desk.format call.desk.clock call.stage call.event = .error fault) :
      Ending call c ⟨after, blank, [], some fault⟩
  | told (after : Console) (blank line : String) (stopped : c.stopFault call = none)
      (empty : blank = "" ∨ blank = "\n")
      (last : lastLine call.desk.format call.desk.clock call.stage call.event = .ok line) :
      Ending call c ⟨after, blank ++ Terminal.println call.desk.emojis line, [], none⟩

theorem ending_conclude (stopped : c.stopFault call = none) (after : Console) {blank : String}
    (empty : blank = "" ∨ blank = "\n") : Ending call c (conclude call after blank) := by
  unfold conclude
  cases last : lastLine call.desk.format call.desk.clock call.stage call.event with
  | error fault => exact .untold after blank fault stopped empty last
  | ok line => exact .told after blank line stopped empty last

theorem Bookkeeping.ending {creations : List Creation} (h : Bookkeeping bar c.underWay creations)
    (shows : c.bar = some bar) (ends : call.stage.ends) : Ending call c (c.step call) := by
  have move := step_transition call shows
  generalize c.step call = s at move ⊢
  cases move with
  | announced stage =>
    rw [stage] at ends
    exact absurd ends Bool.false_ne_true
  | advanced stage | lost stage | orphaned stage | unstarted stage | created stage =>
    exact absurd stage (Stage.not_moves_of_ends ends)
  | unremoved stage id known gone => exact absurd (h.live _ id known) gone
  | left stage busy => exact ending_conclude (stopFault_of_busy busy) _ (.inl rfl)
  | interrupted stage alone running fault drawn =>
    have stopped : c.stopFault call = some fault := by
      rw [stopFault_of_alone shows alone, if_pos running, drawn]
    exact .interrupted _ fault stopped
  | stopped stage alone drawn =>
    have quiet : c.stopFault call = none := by
      rw [stopFault_of_alone shows alone]
      split
      · rename_i running
        exact drawn running
      · rfl
    exact ending_conclude quiet _ (.inr rfl)

/-- Without a bar nothing comes before the last line. -/
theorem ending_new_false (ends : call.stage.ends) :
    Ending call (new false) ((new false).step call) := by
  rw [step_new_false, message_of_ends ends]
  cases last : lastLine call.desk.format call.desk.clock call.stage call.event with
  | error fault => exact .untold _ "" fault rfl (.inl rfl) last
  | ok line =>
    have printed : "" ++ Terminal.println call.desk.emojis line = Terminal.println call.desk.emojis line := String.empty_append
    change Ending call (new false) ⟨new false, Terminal.println call.desk.emojis line, [], none⟩
    rw [← printed]
    exact .told _ "" line rfl (.inl rfl) last

theorem Reachable.ending (reached : c.Reachable) (ends : call.stage.ends) :
    Ending call c (c.step call) := by
  cases shows : c.bar with
  | none =>
    obtain rfl := reached.eq_new_false shows
    exact ending_new_false ends
  | some bar =>
    obtain ⟨creations, books⟩ := reached.exists_books shows
    exact books.ending shows ends

theorem Reachable.released (reached : c.Reachable) (ends : call.stage.ends) :
    call.event.url ∉ (c.step call).state.urls ∧
      ∀ id, c.underWay.lookup call.event.url = some id →
        id ∈ c.taskIds ∧ id ∉ (c.step call).state.taskIds := by
  cases shows : c.bar with
  | none =>
    obtain rfl := reached.eq_new_false shows
    rw [state_step_new_false]
    refine ⟨List.not_mem_nil, fun id known ↦ ?_⟩
    cases known
  | some bar =>
    obtain ⟨creations, books⟩ := reached.exists_books shows
    obtain ⟨last, hstate, -⟩ := exists_state_of_ends shows ends
    refine ⟨?_, fun id known ↦ books.removed_of_ends shows ends known⟩
    rw [hstate]
    exact c.notMem_others _

/-- From every reachable console, a call that ends a transfer leaves it forgotten; its task, which
was in the bar, is in it no more.  A call without a fault has printed the whole last line, after at
most an empty line.  A call with a fault has printed no part of it: nothing if stopping the bar met
the fault, and at most the empty line if the last line could not be made. -/
theorem released_of_ends (reached : c.Reachable) (call : Call) (ends : call.stage.ends) :
    call.event.url ∉ (c.step call).state.urls ∧
      (∀ id, c.underWay.lookup call.event.url = some id →
        id ∈ c.taskIds ∧ id ∉ (c.step call).state.taskIds) ∧
      ((c.step call).fault = none → ∃ blank line, (blank = "" ∨ blank = "\n") ∧
        lastLine call.desk.format call.desk.clock call.stage call.event = .ok line ∧
          (c.step call).out = blank ++ Terminal.println call.desk.emojis line) ∧
      ∀ fault, (c.step call).fault = some fault →
        c.stopFault call = some fault ∧ (c.step call).out = "" ∨
          c.stopFault call = none ∧
            lastLine call.desk.format call.desk.clock call.stage call.event = .error fault ∧
              ((c.step call).out = "" ∨ (c.step call).out = "\n") := by
  obtain ⟨forgotten, removed⟩ := reached.released ends
  refine ⟨forgotten, removed, ?_⟩
  have ending := reached.ending ends
  generalize c.step call = s at ending ⊢
  cases ending with
  | interrupted after fault stopped =>
    refine ⟨fun quiet ↦ absurd quiet (Option.some_ne_none fault), fun met hmet ↦ ?_⟩
    obtain rfl := Option.some.inj hmet
    exact .inl ⟨stopped, rfl⟩
  | untold after blank fault stopped empty last =>
    refine ⟨fun quiet ↦ absurd quiet (Option.some_ne_none fault), fun met hmet ↦ ?_⟩
    obtain rfl := Option.some.inj hmet
    exact .inr ⟨stopped, last, empty⟩
  | told after blank line stopped empty last =>
    refine ⟨fun _ ↦ ⟨blank, line, empty, last, rfl⟩, fun met hmet ↦ ?_⟩
    exact absurd hmet.symm (Option.some_ne_none met)

/-- The last transfer under way ends with a negative count, while a task that cannot be drawn is
left in the bar: the fault is that of stopping the bar, and nothing is printed. -/
theorem released_of_ends_besideClosingTag :
    Reachable ((new true).after besideClosingTag) ∧ Stage.ends .succeeded ∧
      "https://r/a" ∉
        (((new true).after besideClosingTag).step (download .succeeded "a" 5 (-3))).state.urls ∧
      0 ∉ (((new true).after besideClosingTag).step
        (download .succeeded "a" 5 (-3))).state.taskIds ∧
      (((new true).after besideClosingTag).step (download .succeeded "a" 5 (-3))).fault.isSome ∧
      (((new true).after besideClosingTag).step (download .succeeded "a" 5 (-3))).out = "" := by
  have reached : Reachable ((new true).after besideClosingTag) := ⟨true, besideClosingTag, rfl⟩
  have met : (((new true).after besideClosingTag).step
      (download .succeeded "a" 5 (-3))).fault.isSome := by
    decide +kernel
  have stopped : (((new true).after besideClosingTag).stopFault
      (download .succeeded "a" 5 (-3))).isSome := by
    decide +kernel
  have known : ((new true).after besideClosingTag).underWay.lookup "https://r/a" = some 0 := by
    decide +kernel
  obtain ⟨fault, hfault⟩ := Option.isSome_iff_exists.mp met
  obtain ⟨forgotten, removed, -, silent⟩ :=
    released_of_ends reached (download .succeeded "a" 5 (-3)) rfl
  refine ⟨reached, rfl, forgotten, (removed 0 known).2, met, ?_⟩
  rcases silent fault hfault with ⟨-, hout⟩ | ⟨hnone, -⟩
  · exact hout
  · rw [hnone] at stopped
    cases stopped

end Console

end TransferReport
