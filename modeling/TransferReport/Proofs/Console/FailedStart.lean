import Mathlib.Algebra.Ring.Int.Defs
import TransferReport.Proofs.Console.Frame

/-!
# Starts that fail

A transfer that moves for the first time gets a task, and the bar is drawn with it.  When the
drawing fails, all that was there before is still there and nothing has been printed.  If the bar
runs, the transfer is not recorded, so its next event is again its first one.  If it does not run,
the transfer is recorded before the bar is drawn: its next events find its task and draw nothing,
and its end removes both.
-/

namespace TransferReport.Console

open Reporter (Call)

variable {c : Console} {bar : ProgressBar} {call : Call}

/-- A start that fails is the first event of its transfer, prints nothing, and leaves everything
there that was there before: the tasks, the records, and whether the bar runs.  If the bar runs then
the records are the same, so the next event of the transfer is again its first one.  If it does not,
the transfer is recorded with a new task: its further progress meets no fault, and its end restores
the records and the tasks. -/
theorem kept_of_failed_start (reached : c.Reachable) (shows : c.bar = some bar)
    (moves : call.stage.moves) {fault : Fault} (met : (c.step call).fault = some fault) :
    (c.step call).out = "" ∧ call.event.url ∉ c.urls ∧
      ∃ next, (c.step call).state.bar = some next ∧ next.running = bar.running ∧
        bar.tasks <+: next.tasks ∧ c.underWay <+: (c.step call).state.underWay ∧
        (bar.running = true → (c.step call).state.underWay = c.underWay) ∧
        (bar.running = false →
          next.tasks = bar.tasks ++ [bar.newTask call.event] ∧
          (c.step call).state.underWay = c.underWay ++ [(call.event.url, bar.nextId)] ∧
          (∀ later : Call, later.stage.moves → later.event.url = call.event.url →
            ((c.step call).state.step later).fault = none) ∧
          ∀ later : Call, later.stage.ends → later.event.url = call.event.url →
            ((c.step call).state.step later).state.underWay = c.underWay ∧
              ∃ last, ((c.step call).state.step later).state.bar = some last ∧
                last.tasks = bar.tasks) := by
  obtain ⟨creations, books⟩ := reached.exists_books shows
  obtain ⟨next, hnext, kept⟩ := books.step shows call
  have move := step_transition call shows
  generalize c.step call = s at move met hnext kept ⊢
  cases move with
  | announced | advanced | created => cases met
  | lost stage id known gone => exact absurd (books.live _ id known) gone
  | unremoved stage | left stage | interrupted stage | stopped stage =>
    exact absurd moves (Stage.not_moves_of_ends stage)
  | orphaned stage new running =>
    obtain rfl := Option.some.inj hnext
    refine ⟨rfl, lookup_eq_none_iff_notMem.mp new, _, rfl, rfl, ⟨_, rfl⟩, List.prefix_rfl,
      fun _ ↦ rfl, fun idle ↦ ?_⟩
    rw [running] at idle
    cases idle
  | unstarted stage new idle =>
    obtain rfl := Option.some.inj hnext
    refine ⟨rfl, lookup_eq_none_iff_notMem.mp new, _, rfl, rfl, ⟨_, rfl⟩, ⟨_, rfl⟩,
      fun running ↦ ?_, fun _ ↦ ⟨rfl, rfl, fun later hmoves same ↦ ?_, fun later ends same ↦ ?_⟩⟩
    · rw [running] at idle
      cases idle
    · have known : later.event.url ∈
          (c.underWay ++ [(call.event.url, bar.nextId)]).map Prod.fst := by
        rw [same]
        simp
      obtain ⟨front, task, back, -, -, hstep⟩ := kept.exists_step_of_known rfl hmoves known
      rw [hstep]
    · exact restored_of_ends new ends same rfl rfl (books.without_grown _)

/-- A first download that is too long to be shown is recorded, and stays in the bar. -/
theorem recorded_of_failed_start :
    ((new true).step (download .started "b" (10 ^ 40) 0)).fault.map Fault.message =
        some "[<class 'decimal.InvalidOperation'>]" ∧
      ((new true).step (download .started "b" (10 ^ 40) 0)).state =
        ⟨some ⟨[⟨0, "b", some (.int (10 ^ 40)), .int 0⟩], 1, false⟩, [("https://r/b", 0)]⟩ := by
  decide +kernel

/-- Its progress meets no fault any more, and its end leaves nothing of it. -/
theorem kept_of_failed_start_tooLong :
    Reachable (new true) ∧ Stage.moves .started ∧
      (∃ fault, ((new true).step (download .started "b" (10 ^ 40) 0)).fault = some fault) ∧
      (((new true).step (download .started "b" (10 ^ 40) 0)).state.step
        (download .progressed "b" (10 ^ 40) 7)).fault = none ∧
      (((new true).step (download .started "b" (10 ^ 40) 0)).state.step
        (download .failed "b" (10 ^ 40) 7)).state.underWay = [] := by
  have met : ((new true).step (download .started "b" (10 ^ 40) 0)).fault.isSome := by
    decide +kernel
  obtain ⟨fault, hfault⟩ := Option.isSome_iff_exists.mp met
  have reached : Reachable (new true) := ⟨true, [], rfl⟩
  have shows : (new true).bar = some .empty := rfl
  obtain ⟨-, -, next, -, -, -, -, -, idle⟩ := kept_of_failed_start reached shows rfl hfault
  obtain ⟨-, -, progress, ended⟩ := idle rfl
  exact ⟨reached, rfl, ⟨fault, hfault⟩, progress (download .progressed "b" (10 ^ 40) 7) rfl rfl,
    (ended (download .failed "b" (10 ^ 40) 7) rfl rfl).1⟩

end TransferReport.Console
