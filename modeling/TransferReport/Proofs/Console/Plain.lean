import TransferReport.Proofs.Console.Output
import TransferReport.Proofs.Console.SizeText
import TransferReport.Proofs.Markup.Plain
import TransferReport.Proofs.Message.Plain

/-!
# Plain tasks of the bar

A task is plain when it shows a plain event; drawing it meets no fault.  If all events about a URL
are plain then so are the tasks created for it, whatever the other events are, because a call
updates no task but its own.  A call about a plain event therefore meets a fault only where it draws
the bar, and then it is the fault of a task that was there before.
-/

namespace TransferReport

open Reporter (Call)

/-- The task shows a plain event. -/
def Task.Plain (t : Task) : Prop :=
  ∃ e : Event, e.Plain ∧ t.name = e.resource.name ∧
    t.total = Console.knownLength e.resource.length ∧ t.completed = .int e.transferred

namespace Task.Plain

variable {task : Task} {e : Event}

theorem complete (plain : task.Plain) (part : e.Plain) :
    Task.Plain { task with completed := .int e.transferred } := by
  obtain ⟨shown, hplain, hname, htotal, -⟩ := plain
  exact ⟨_, hplain.withTransferred part, hname, htotal, rfl⟩

end Task.Plain

theorem ProgressBar.plain_newTask {e : Event} (plain : e.Plain) (bar : ProgressBar) :
    (bar.newTask e).Plain :=
  ⟨_, plain.restart, rfl, rfl, rfl⟩

namespace Console

variable {c : Console} {bar next : ProgressBar} {creations : List Creation} {call : Call}
  {url : String}

/-- How a task came into the bar that a call leaves. -/
inductive Origin (call : Call) (c : Console) (bar : ProgressBar) : Task → Prop
  | kept {task : Task} (live : task ∈ bar.tasks) : Origin call c bar task
  | updated {task : Task} (live : task ∈ bar.tasks)
      (known : c.underWay.lookup call.event.url = some task.id) :
      Origin call c bar { task with completed := .int call.event.transferred }
  | added : Origin call c bar (bar.newTask call.event)
  | begun : Origin call c bar
      { bar.newTask call.event with completed := .int call.event.transferred }

theorem origin_of_mem_grown {task : Task} (live : task ∈ (bar.grown call.event).tasks) :
    Origin call c bar task := by
  rcases List.mem_append.mp live with hold | hnew
  · exact .kept hold
  · rw [List.mem_singleton.mp hnew]
    exact .added

theorem Bookkeeping.origin (h : Bookkeeping bar c.underWay creations) (shows : c.bar = some bar)
    (hnext : (c.step call).state.bar = some next) {task : Task} (live : task ∈ next.tasks) :
    Origin call c bar task := by
  have move := step_transition call shows
  generalize c.step call = s at move hnext
  cases move with
  | announced =>
    obtain rfl : bar = next := Option.some.inj (shows.symm.trans hnext)
    exact .kept live
  | advanced stage id known =>
    obtain rfl := Option.some.inj hnext
    rcases ProgressBar.cases_of_mem_withCompleted live with ⟨hold, -⟩ | ⟨old, hold, rfl, rfl⟩
    · exact .kept hold
    · exact .updated hold known
  | lost | unremoved =>
    obtain rfl := Option.some.inj hnext
    exact .kept live
  | orphaned | unstarted =>
    obtain rfl := Option.some.inj hnext
    exact origin_of_mem_grown live
  | created stage new drawn =>
    obtain rfl := Option.some.inj hnext
    rcases ProgressBar.cases_of_mem_withCompleted live with ⟨hold, -⟩ | ⟨old, hold, hid, rfl⟩
    · exact origin_of_mem_grown hold
    · rcases List.mem_append.mp hold with holder | hnew
      · exact absurd (hid ▸ List.mem_map_of_mem holder) h.nextId_notMem
      · rw [List.mem_singleton.mp hnew]
        exact .begun
  | left | stopped =>
    rw [conclude_state] at hnext
    obtain rfl := Option.some.inj hnext
    exact .kept (freed_tasks_subset c bar _ live)
  | interrupted =>
    obtain rfl := Option.some.inj hnext
    exact .kept (freed_tasks_subset c bar _ live)

/-- Every task that was created for the URL is plain. -/
def PlainFor (url : String) (bar : ProgressBar) (creations : List Creation) : Prop :=
  ∀ task ∈ bar.tasks, ∀ creation ∈ creations, creation.Describes task →
    creation.call.event.url = url → task.Plain

theorem call_of_mem_created {creation : Creation} (made : creation ∈ c.created call) :
    creation.call = call := by
  obtain ⟨id, -, rfl⟩ := List.mem_map.mp made
  rfl

/-- The task with the next number is created by the call. -/
theorem Bookkeeping.call_of_nextId (h : Bookkeeping bar c.underWay creations) {creation : Creation}
    (made : creation ∈ creations ++ c.created call) (new : creation.id = bar.nextId) :
    creation.call = call := by
  rcases List.mem_append.mp made with hold | hnew
  · exact absurd new (h.creation_lt_nextId hold).ne
  · exact call_of_mem_created hnew

theorem PlainFor.step (plain : PlainFor url bar creations)
    (h : Bookkeeping bar c.underWay creations) (shows : c.bar = some bar)
    (own : call.event.url = url → call.event.Plain)
    (hnext : (c.step call).state.bar = some next)
    (books : Bookkeeping next (c.step call).state.underWay (creations ++ c.created call)) :
    PlainFor url next (creations ++ c.created call) := by
  have unique {old creation : Creation} (hold : old ∈ creations)
      (made : creation ∈ creations ++ c.created call) (same : old.id = creation.id) :
      old = creation :=
    books.creation_unique (List.mem_append_left _ hold) made same
  intro task live creation made described hurl
  cases h.origin shows hnext live with
  | kept hold =>
    obtain ⟨old, hcreation, hdescribed⟩ := h.described task hold
    obtain rfl := unique hcreation made (hdescribed.1.symm.trans described.1)
    exact plain task hold old hcreation described hurl
  | @updated old hold known =>
    obtain ⟨recorded, hcreation, howner, hid⟩ := h.recorded _ (mem_of_lookup known)
    obtain rfl := unique hcreation made (hid.trans described.1)
    exact (plain old hold recorded hcreation described hurl).complete (own (howner.symm.trans hurl))
  | added =>
    obtain rfl := h.call_of_nextId made described.1.symm
    exact ProgressBar.plain_newTask (own hurl) bar
  | begun =>
    obtain rfl := h.call_of_nextId made described.1.symm
    exact (ProgressBar.plain_newTask (own hurl) bar).complete (own hurl)

theorem PlainFor.run (plain : PlainFor url bar creations)
    (h : Bookkeeping bar c.underWay creations) (shows : c.bar = some bar) {calls : List Call}
    (own : ∀ call ∈ calls, call.event.url = url → call.event.Plain)
    (hnext : (c.after calls).bar = some next) :
    PlainFor url next (creations ++ c.creations calls) := by
  induction calls generalizing c bar creations with
  | nil =>
    obtain rfl : bar = next := Option.some.inj (shows.symm.trans hnext)
    rw [Console.creations, List.append_nil]
    exact plain
  | cons call calls ih =>
    rw [List.forall_mem_cons] at own
    obtain ⟨middle, hmiddle, books⟩ := h.step shows call
    have hplain := plain.step h shows own.1 hmiddle books
    have hrun := ih hplain books hmiddle own.2 hnext
    rw [List.append_assoc] at hrun
    exact hrun

/-- The message of a plain event can be made unless the time since the start is out of range. -/
theorem exists_message (plain : call.event.Plain)
    (elapsed : Number.Elapsed call.desk.clock call.event.resource.start) :
    ∃ text, message call = .ok text := by
  unfold message
  cases call.stage with
  | initiated | started | progressed | corrupted | failed => exact ⟨_, rfl⟩
  | succeeded =>
    obtain ⟨line, hline⟩ := plain.exists_succeeded elapsed call.desk.format
    refine ⟨Terminal.println call.desk.emojis line, ?_⟩
    rw [lastLine, hline]
    rfl

end Console

end TransferReport
