import TransferReport.Proofs.Console.Bookkeeping

/-!
# Runs of the console without a fault

As long as no call meets a fault, the bar has exactly the tasks of the transfers under way, in the
same order, and it runs exactly while there are any.
-/

namespace TransferReport.Console

open Reporter (Call)

/-- The bar shows the transfers under way and nothing else. -/
structure Tidy (bar : ProgressBar) (underWay : List (String × ℕ)) : Prop where
  ids : bar.tasks.map Task.id = underWay.map Prod.snd
  running : bar.running = true ↔ underWay ≠ []

namespace Tidy

variable {c : Console} {bar : ProgressBar} {creations : List Creation}

theorem initial : Tidy .empty [] where
  ids := rfl
  running := iff_of_false Bool.false_ne_true (fun h ↦ h rfl)

theorem complete {underWay : List (String × ℕ)} (h : Tidy bar underWay) (id : ℕ)
    (completed : Number) : Tidy (bar.withCompleted id completed) underWay where
  ids := (bar.taskIds_withCompleted id completed).trans h.ids
  running := h.running

theorem freed_ids (h : Tidy bar c.underWay) (books : Bookkeeping bar c.underWay creations)
    (url : String) : (c.freed bar url).tasks.map Task.id = (c.others url).map Prod.snd := by
  unfold Console.freed
  cases known : c.underWay.lookup url with
  | none =>
    rw [others_of_unknown known]
    exact h.ids
  | some id =>
    rw [books.others_ids known, ← h.ids]
    exact bar.taskIds_without id

/-- Only a fault makes the bar untidy. -/
theorem step (h : Tidy bar c.underWay) (books : Bookkeeping bar c.underWay creations)
    (shows : c.bar = some bar) {call : Call} (quiet : (c.step call).fault = none) :
    ∃ next, (c.step call).state.bar = some next ∧ Tidy next (c.step call).state.underWay := by
  have released := h.freed_ids books call.event.url
  have move := step_transition call shows
  generalize c.step call = s at move quiet ⊢
  cases move with
  | announced => exact ⟨bar, shows, h⟩
  | advanced stage id known => exact ⟨_, rfl, h.complete id _⟩
  | lost | orphaned | unstarted | unremoved | interrupted =>
    exact absurd quiet (Option.some_ne_none _)
  | created stage new drawn =>
    have ids : (bar.grown call.event).tasks.map Task.id =
        (c.underWay ++ [(call.event.url, bar.nextId)]).map Prod.snd := by
      rw [ProgressBar.taskIds_grown, List.map_append, h.ids]
      rfl
    have tidy : Tidy { bar.grown call.event with running := true }
        (c.underWay ++ [(call.event.url, bar.nextId)]) :=
      ⟨ids, iff_of_true rfl (List.append_ne_nil_of_right_ne_nil _ (List.cons_ne_nil _ _))⟩
    exact ⟨_, rfl, tidy.complete _ _⟩
  | left stage busy =>
    rw [conclude_state]
    have running : bar.running = true := by
      rw [h.running]
      intro empty
      unfold others at busy
      rw [empty] at busy
      exact busy rfl
    exact ⟨_, rfl, released, iff_of_true ((freed_running c bar _).trans running) busy⟩
  | stopped stage alone drawn =>
    rw [conclude_state]
    rw [alone] at released
    exact ⟨_, rfl, released, iff_of_false Bool.false_ne_true (fun h ↦ h rfl)⟩

/-- A run without a fault stays tidy. -/
theorem run (h : Tidy bar c.underWay) (books : Bookkeeping bar c.underWay creations)
    (shows : c.bar = some bar) {calls : List Call}
    (quiet : ∀ made ∈ c.trace calls, made.2.fault = none) :
    ∃ next, (c.after calls).bar = some next ∧ Tidy next (c.after calls).underWay := by
  induction calls generalizing c bar creations with
  | nil => exact ⟨bar, shows, h⟩
  | cons call calls ih =>
    rw [trace_cons, List.forall_mem_cons] at quiet
    obtain ⟨next, hnext, hstep⟩ := h.step books shows quiet.1
    obtain ⟨next', hnext', hbooks⟩ := books.step shows call
    obtain rfl : next = next' := Option.some.inj (hnext.symm.trans hnext')
    exact ih hstep hbooks hnext quiet.2

end Tidy

/-- After any calls no URL and no task is recorded twice, the recorded tasks are in the bar, in the
order of their creation, with the name and the total that they were created with, and no number is
given to two tasks.  A task that is not recorded was left by a fault in adding it.  Without faults
the recorded tasks are all tasks of the bar, and the bar runs exactly while there are any. -/
theorem bookkeeping_after (calls : List Call) :
    ∃ bar underWay, (new true).after calls = ⟨some bar, underWay⟩ ∧
      (underWay.map Prod.fst).Nodup ∧
      (underWay.map Prod.snd).Pairwise (· < ·) ∧
      (bar.tasks.map Task.id).Pairwise (· < ·) ∧
      (underWay.map Prod.snd).Sublist (bar.tasks.map Task.id) ∧
      (∀ task ∈ bar.tasks, task.id < bar.nextId) ∧
      ((new true).creations calls).map Creation.id = List.range bar.nextId ∧
      (∀ entry ∈ underWay, ∃ task ∈ bar.tasks, ∃ creation ∈ (new true).creations calls,
        task.id = entry.2 ∧ creation.call.event.url = entry.1 ∧ creation.Describes task) ∧
      (∀ task ∈ bar.tasks, task.id ∉ underWay.map Prod.snd →
        ∃ creation ∈ (new true).creations calls, creation.Describes task ∧ creation.AddFailed) ∧
      ((∀ made ∈ (new true).trace calls, made.2.fault = none) →
        bar.tasks.map Task.id = underWay.map Prod.snd ∧
          (bar.running = true ↔ underWay ≠ [])) := by
  obtain ⟨bar, hbar, books⟩ := bookkeeping_new calls
  refine ⟨bar, ((new true).after calls).underWay, ?_, books.urls_nodup,
    books.recordedIds_pairwise, books.taskIds_pairwise, books.recorded_sublist, ?_,
    books.creations_range, ?_, ?_, ?_⟩
  · rw [← hbar]
  · intro task live
    exact books.lt_nextId (List.mem_map_of_mem live)
  · intro entry known
    exact books.exists_recorded known
  · intro task live unknown
    exact books.exists_addFailed live unknown
  · intro quiet
    obtain ⟨last, hlast, tidy⟩ := Tidy.run .initial .initial rfl quiet
    obtain rfl : bar = last := Option.some.inj (hbar.symm.trans hlast)
    exact ⟨tidy.ids, tidy.running⟩

/-- A call about a download from one place at one moment. -/
def download (stage : Stage) (name : String) (length transferred : ℤ) : Call where
  desk := ⟨⟨.english⟩, .int 1, 20, Terminal.emoji?⟩
  stage := stage
  event := ⟨.download, ⟨"central", "https://r/", name, length, .int 0⟩, transferred, none⟩

/-- Two downloads that overlap, of which the first has failed, without a fault in the reports. -/
theorem bookkeeping_after_failed :
    ∃ bar underWay, (new true).after [download .started "a" 5 0, download .started "b" 7 2,
        download .failed "a" 5 3] = ⟨some bar, underWay⟩ ∧
      bar.tasks.map Task.id = underWay.map Prod.snd ∧ (bar.running = true ↔ underWay ≠ []) := by
  obtain ⟨bar, underWay, hafter, -, -, -, -, -, -, -, -, quiet⟩ :=
    bookkeeping_after [download .started "a" 5 0, download .started "b" 7 2,
      download .failed "a" 5 3]
  exact ⟨bar, underWay, hafter, quiet (by decide +kernel)⟩

end TransferReport.Console
