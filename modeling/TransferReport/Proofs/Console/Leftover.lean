import TransferReport.Proofs.Console.Tidy

/-!
# Tasks that stay behind

The end of a transfer removes its task from the bar if the task is recorded.  A task whose addition
met a fault is never recorded, so no later call can remove it, although the transfer may be started
anew, shown by another task, and ended.  These tasks are the only ones that stay behind.
-/

namespace TransferReport.Console

open Reporter (Call)

variable {c : Console} {bar : ProgressBar} {creations : List Creation}

/-- A call that ends a transfer leaves it forgotten, even when the call meets a fault. -/
theorem underWay_of_ends (shows : c.bar = some bar) {call : Call} (ends : call.stage.ends) :
    (c.step call).state.underWay = c.others call.event.url := by
  obtain ⟨last, hstate, -⟩ := exists_state_of_ends shows ends
  rw [hstate]

/-- A task whose transfer is not under way is in the bar exactly if adding it failed. -/
theorem Bookkeeping.live_iff_addFailed (h : Bookkeeping bar c.underWay creations)
    {creation : Creation} (made : creation ∈ creations)
    (unknown : creation.call.event.url ∉ c.underWay.map Prod.fst) :
    creation.id ∈ bar.tasks.map Task.id ↔ creation.AddFailed := by
  rw [h.addFailed_iff creation made]
  refine (and_iff_left ?_).symm
  intro recorded
  obtain ⟨entry, hentry, hid⟩ := List.mem_map.mp recorded
  obtain ⟨other, hother, hurl, hnumber⟩ := h.recorded entry hentry
  obtain rfl : creation = other := h.creation_unique made hother (hid.symm.trans hnumber.symm)
  rw [hurl] at unknown
  exact unknown (List.mem_map_of_mem hentry)

theorem Bookkeeping.taskIds_eq_nil_iff (h : Bookkeeping bar c.underWay creations)
    (idle : c.underWay = []) :
    bar.tasks.map Task.id = [] ↔ ∀ creation ∈ creations, ¬ creation.AddFailed := by
  have live (creation : Creation) (made : creation ∈ creations) :
      creation.id ∈ bar.tasks.map Task.id ↔ creation.AddFailed := by
    refine h.live_iff_addFailed made ?_
    rw [idle]
    exact List.not_mem_nil
  constructor
  · intro empty creation made failed
    rw [← live creation made, empty] at failed
    exact List.not_mem_nil failed
  · intro added
    rw [List.eq_nil_iff_forall_not_mem]
    intro id hid
    obtain ⟨task, htask, rfl⟩ := List.mem_map.mp hid
    obtain ⟨creation, made, described⟩ := h.described task htask
    rw [described.1] at hid
    exact added creation made ((live creation made).mp hid)

/-- After the end of a transfer the bar holds a task that was created for its URL exactly if adding
such a task has failed; when no transfer is under way it holds no task at all exactly if adding a
task has never failed. -/
theorem leftover_iff_addFailed (calls : List Call) :
    (∀ call : Call, call.stage.ends →
      ((∃ creation ∈ (new true).creations (calls ++ [call]),
          creation.call.event.url = call.event.url ∧
            creation.id ∈ ((new true).after (calls ++ [call])).taskIds) ↔
        ∃ creation ∈ (new true).creations (calls ++ [call]),
          creation.call.event.url = call.event.url ∧ creation.AddFailed)) ∧
      (((new true).after calls).underWay = [] →
        (((new true).after calls).taskIds = [] ↔
          ∀ creation ∈ (new true).creations calls, ¬ creation.AddFailed)) := by
  constructor
  · intro call ends
    obtain ⟨before, hbefore, -⟩ := bookkeeping_new calls
    obtain ⟨bar, hbar, books⟩ := bookkeeping_new (calls ++ [call])
    have forgotten : call.event.url ∉
        ((new true).after (calls ++ [call])).underWay.map Prod.fst := by
      rw [after_append, after_cons, after_nil, underWay_of_ends hbefore ends]
      exact notMem_others _ _
    rw [taskIds_of_bar hbar]
    constructor
    · rintro ⟨creation, made, same, live⟩
      exact ⟨creation, made, same, (books.live_iff_addFailed made (same ▸ forgotten)).mp live⟩
    · rintro ⟨creation, made, same, failed⟩
      exact ⟨creation, made, same, (books.live_iff_addFailed made (same ▸ forgotten)).mpr failed⟩
  · intro idle
    obtain ⟨bar, hbar, books⟩ := bookkeeping_new calls
    rw [taskIds_of_bar hbar]
    exact books.taskIds_eq_nil_iff idle

/-- A closing tag in the name of the second download fails its addition to the running bar.  Its
task outlives its own transfer, and the other one as well. -/
theorem leftover_closing_tag :
    (∃ creation ∈ (new true).creations [download .started "ok" 5 0, download .started "[/b]" 10 0,
        download .failed "[/b]" 10 0],
      creation.call.event.url = (download .failed "[/b]" 10 0).event.url ∧
        creation.id ∈ ((new true).after [download .started "ok" 5 0,
          download .started "[/b]" 10 0, download .failed "[/b]" 10 0]).taskIds) ∧
      (new true).after [download .started "ok" 5 0, download .started "[/b]" 10 0,
        download .failed "[/b]" 10 0, download .failed "ok" 5 0] =
        ⟨some ⟨[⟨1, "[/b]", some (.int 10), .int 0⟩], 2, false⟩, []⟩ := by
  decide +kernel

end TransferReport.Console
