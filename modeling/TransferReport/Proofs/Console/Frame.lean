import TransferReport.Proofs.Console.Output
import TransferReport.Proofs.Console.Shown
import TransferReport.Proofs.Console.Tidy

/-!
# What a call leaves alone

A call changes the record and the task of its own transfer only.  The records of all other transfers
stay as they are and in their order, and so do their tasks, whether the call meets a fault or not.
Progress of a transfer under way changes nothing but what is completed of its task, and draws
nothing, so it never meets a fault.
-/

namespace TransferReport.Console

open Reporter (Call)

variable {c : Console} {bar : ProgressBar} {creations : List Creation} {call : Call} {url : String}

theorem others_step (shows : c.bar = some bar) (call : Call) :
    (c.step call).state.others call.event.url = c.others call.event.url := by
  have move := step_transition call shows
  generalize c.step call = s at move ⊢
  cases move with
  | announced | advanced | lost | orphaned => rfl
  | unstarted | created => exact others_append_self c _ _ _
  | unremoved => exact others_others c _ _
  | left =>
    rw [conclude_state]
    exact others_others c _ _
  | interrupted stage alone => exact alone.symm
  | stopped stage alone =>
    rw [conclude_state]
    exact alone.symm

/-- Progress of a transfer under way updates its task, in its place. -/
theorem Bookkeeping.exists_step_of_known (h : Bookkeeping bar c.underWay creations)
    (shows : c.bar = some bar) (moves : call.stage.moves) (known : call.event.url ∈ c.urls) :
    ∃ front task back, bar.tasks = front ++ task :: back ∧
      c.underWay.lookup call.event.url = some task.id ∧
      c.step call = ⟨{ c with bar := some { bar with
          tasks := front ++ { task with completed := .int call.event.transferred } :: back } },
        "", [], none⟩ := by
  obtain ⟨id, found⟩ : ∃ id, c.underWay.lookup call.event.url = some id :=
    Option.ne_none_iff_exists'.mp fun unknown ↦ lookup_eq_none_iff_notMem.mp unknown known
  obtain ⟨task, live, rfl⟩ := List.mem_map.mp (h.live _ _ found)
  obtain ⟨front, back, htasks⟩ := List.append_of_mem live
  refine ⟨front, task, back, htasks, found, ?_⟩
  rw [step_of_moves moves, update_of_known shows found, ProgressBar.complete_of_mem (h.live _ _ found),
    ProgressBar.withCompleted_of_nodup h.taskIds_nodup htasks]

/-- Removing a new task leaves the others. -/
theorem Bookkeeping.without_grown (h : Bookkeeping bar c.underWay creations) (e : Event) :
    ((bar.grown e).without bar.nextId).tasks = bar.tasks := by
  have others : bar.tasks.filter (fun task ↦ task.id != bar.nextId) = bar.tasks := by
    apply List.filter_eq_self.mpr
    intro task live
    exact bne_iff_ne.mpr (h.lt_nextId (List.mem_map_of_mem live)).ne
  unfold ProgressBar.without
  rw [ProgressBar.tasks_grown, List.filter_append, others,
    List.filter_cons_of_neg (by simp [ProgressBar.newTask]), List.filter_nil, List.append_nil]

/-- When a new transfer has been recorded, its end restores what was there before. -/
theorem restored_of_ends {e : Event} {id : ℕ} (new : c.underWay.lookup e.url = none) {later : Call}
    (ends : later.stage.ends) (same : later.event.url = e.url) {begun : Console}
    {grown : ProgressBar} (hbar : begun.bar = some grown)
    (hrecords : begun.underWay = c.underWay ++ [(e.url, id)])
    (htasks : (grown.without id).tasks = bar.tasks) :
    (begun.step later).state.underWay = c.underWay ∧
      ∃ last, (begun.step later).state.bar = some last ∧ last.tasks = bar.tasks := by
  obtain ⟨last, hstate, hlast⟩ := exists_state_of_ends hbar ends
  have found : begun.underWay.lookup e.url = some id := by
    rw [hrecords]
    exact lookup_append_self new _
  rw [hstate]
  refine ⟨?_, last, rfl, ?_⟩
  · rw [same, others, hrecords]
    exact (others_append_self c none _ _).trans (others_of_unknown new)
  · rw [hlast, same, Console.freed, found]
    exact htasks

/-! ## Reachable consoles -/

/-- Some calls leave a new console like this. -/
def Reachable (c : Console) : Prop :=
  ∃ showBar calls, (new showBar).after calls = c

theorem Reachable.exists_books (reached : c.Reachable) (shows : c.bar = some bar) :
    ∃ creations, Bookkeeping bar c.underWay creations := by
  obtain ⟨showBar, calls, rfl⟩ := reached
  cases showBar with
  | true =>
    obtain ⟨last, hlast, books⟩ := bookkeeping_new calls
    obtain rfl : bar = last := Option.some.inj (shows.symm.trans hlast)
    exact ⟨_, books⟩
  | false =>
    rw [after_new_false] at shows
    cases shows

/-- A console without a bar is as it was in the beginning. -/
theorem Reachable.eq_new_false (reached : c.Reachable) (hidden : c.bar = none) : c = new false := by
  obtain ⟨showBar, calls, rfl⟩ := reached
  cases showBar with
  | true =>
    obtain ⟨bar, shows, -⟩ := bookkeeping_new calls
    rw [hidden] at shows
    cases shows
  | false => exact after_new_false calls

theorem Reachable.step (reached : c.Reachable) (call : Call) : (c.step call).state.Reachable := by
  obtain ⟨showBar, calls, rfl⟩ := reached
  refine ⟨showBar, calls ++ [call], ?_⟩
  rw [after_append, after_cons, after_nil]

theorem Reachable.isSome_bar_step (reached : c.Reachable) (call : Call) :
    (c.step call).state.bar.isSome = c.bar.isSome := by
  cases shows : c.bar with
  | none =>
    obtain rfl := reached.eq_new_false shows
    rw [state_step_new_false]
    rfl
  | some bar =>
    obtain ⟨next, hnext⟩ := exists_bar_step shows call
    rw [hnext]
    rfl

/-- Whether it meets a fault or not, a call leaves the records of all other transfers alone, with
their numbers and in their order, and their tasks.  A call that shows progress of a transfer under
way meets no fault, prints nothing, and changes what is completed of its task but nothing else. -/
theorem step_leaves_others {c : Console} (reached : c.Reachable) (call : Call) :
    (c.step call).state.others call.event.url = c.others call.event.url ∧
      (∀ url ≠ call.event.url,
        (c.step call).state.underWay.lookup url = c.underWay.lookup url ∧
          ∀ id, c.underWay.lookup url = some id →
            ∃ bar next task, c.bar = some bar ∧ (c.step call).state.bar = some next ∧
              bar.task? id = some task ∧ next.task? id = some task) ∧
      (call.stage.moves → call.event.url ∈ c.urls →
        ∃ bar front task back, c.bar = some bar ∧ bar.tasks = front ++ task :: back ∧
          c.underWay.lookup call.event.url = some task.id ∧
            c.step call = ⟨{ c with bar := some { bar with
                tasks := front ++ { task with completed := .int call.event.transferred } :: back } },
              "", [], none⟩) := by
  cases shows : c.bar with
  | none =>
    obtain rfl := reached.eq_new_false shows
    rw [state_step_new_false]
    refine ⟨rfl, fun url _ ↦ ⟨rfl, fun id known ↦ ?_⟩, fun _ known ↦ ?_⟩
    · cases known
    · exact absurd known List.not_mem_nil
  | some bar =>
    obtain ⟨creations, books⟩ := reached.exists_books shows
    refine ⟨others_step shows call, fun url different ↦ ?_, fun moves known ↦ ?_⟩
    · obtain ⟨next, hnext, hlookup, htask⟩ := books.frame shows different
      refine ⟨hlookup, fun id known ↦ ?_⟩
      obtain ⟨task, found⟩ := books.exists_task known
      exact ⟨bar, next, task, rfl, hnext, found, (htask id known).trans found⟩
    · obtain ⟨front, task, back, htasks, found, hstep⟩ :=
        books.exists_step_of_known shows moves known
      exact ⟨bar, front, task, back, rfl, htasks, found, hstep⟩

/-- A download, and another one whose name has a closing tag, so that its task cannot be drawn. -/
def besideClosingTag : List Call :=
  [download .started "a" 5 0, download .started "[/b]" 7 2]

/-- The start of a third download meets the fault of the second one and leaves the first one alone,
whose progress may go below zero. -/
theorem step_leaves_others_besideClosingTag :
    Reachable ((new true).after besideClosingTag) ∧
      (((new true).after besideClosingTag).step (download .started "c" 5 0)).fault.isSome ∧
      (((new true).after besideClosingTag).step (download .started "c" 5 0)).state.others
        "https://r/c" = [("https://r/a", 0)] ∧
      ∃ bar front task back, ((new true).after besideClosingTag).bar = some bar ∧
        bar.tasks = front ++ task :: back ∧
        ((new true).after besideClosingTag).step (download .progressed "a" 5 (-3)) =
          ⟨{ (new true).after besideClosingTag with bar := some { bar with
              tasks := front ++ { task with completed := .int (-3) } :: back } }, "", [], none⟩ := by
  have reached : Reachable ((new true).after besideClosingTag) := ⟨true, besideClosingTag, rfl⟩
  obtain ⟨left, -, -⟩ := step_leaves_others reached (download .started "c" 5 0)
  obtain ⟨-, -, progress⟩ := step_leaves_others reached (download .progressed "a" 5 (-3))
  have records : ((new true).after besideClosingTag).underWay = [("https://r/a", 0)] := by
    decide +kernel
  have known : "https://r/a" ∈ ((new true).after besideClosingTag).urls := by
    rw [urls, records]
    exact List.mem_cons_self
  have alone : ((new true).after besideClosingTag).others "https://r/c" = [("https://r/a", 0)] := by
    rw [others, records]
    decide
  obtain ⟨bar, front, task, back, shows, htasks, -, hstep⟩ := progress rfl known
  exact ⟨reached, by decide +kernel, left.trans alone, bar, front, task, back, shows, htasks, hstep⟩

end TransferReport.Console
