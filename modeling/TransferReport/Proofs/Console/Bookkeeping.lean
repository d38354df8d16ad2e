import Mathlib.Data.List.Nodup
import Mathlib.Data.List.Lemmas
import TransferReport.Proofs.Console.Transition

/-!
# Bookkeeping of the console

The console records which task of the bar shows each transfer under way, and the bar keeps the
tasks on its own.  The two stores stay in step through every call, whether the call meets a fault or
not.  Only a fault in adding a task separates them: the task is then in the bar and no transfer
is recorded with it.  The creations of tasks are read off a run by what is in the bar before and
after each call.
-/

namespace TransferReport.Console

open Reporter (Call)

/-- The numbers of the tasks in the bar, in its order. -/
def taskIds (c : Console) : List ℕ :=
  match c.bar with
  | some bar => bar.tasks.map Task.id
  | none => []

theorem taskIds_of_bar {c : Console} {bar : ProgressBar} (shows : c.bar = some bar) :
    c.taskIds = bar.tasks.map Task.id := by
  unfold taskIds
  rw [shows]

/-- How a task came into the bar: its number, the call that created it, and the console before. -/
structure Creation where
  id : ℕ
  before : Console
  call : Call

/-- The task has the name and the total of the event that created it. -/
def Creation.Describes (creation : Creation) (task : Task) : Prop :=
  task.id = creation.id ∧ task.name = creation.call.event.resource.name ∧
    task.total = knownLength creation.call.event.resource.length

/-- The call met a fault while it added the task to the bar, and ended with this fault. -/
def Creation.AddFailed (creation : Creation) : Prop :=
  ∃ bar fault, creation.before.bar = some bar ∧
    (bar.add creation.call.desk.format creation.call.event.resource.name
      (knownLength creation.call.event.resource.length)).2 = .error fault ∧
    (creation.before.step creation.call).fault = some fault

/-- The tasks that are in the bar after a call and were not in it before. -/
def created (c : Console) (call : Call) : List Creation :=
  ((c.step call).state.taskIds.filter (fun id ↦ id ∉ c.taskIds)).map
    fun id ↦ ⟨id, c, call⟩

/-- The creations of all tasks in a run, in order. -/
def creations (c : Console) : List Call → List Creation
  | [] => []
  | call :: calls => c.created call ++ creations (c.step call).state calls

/-- What holds of a bar, the transfers under way and all tasks created so far. -/
structure Bookkeeping (bar : ProgressBar) (underWay : List (String × ℕ))
    (creations : List Creation) : Prop where
  urls_nodup : (underWay.map Prod.fst).Nodup
  creations_range : creations.map Creation.id = List.range bar.nextId
  tasks_sublist : (bar.tasks.map Task.id).Sublist (List.range bar.nextId)
  recorded_sublist : (underWay.map Prod.snd).Sublist (bar.tasks.map Task.id)
  described : ∀ task ∈ bar.tasks, ∃ creation ∈ creations, creation.Describes task
  recorded : ∀ entry ∈ underWay, ∃ creation ∈ creations,
    creation.call.event.url = entry.1 ∧ creation.id = entry.2
  /-- A task without a transfer is one whose addition failed. -/
  addFailed_iff : ∀ creation ∈ creations, creation.AddFailed ↔
    creation.id ∈ bar.tasks.map Task.id ∧ creation.id ∉ underWay.map Prod.snd

namespace Bookkeeping

variable {bar : ProgressBar} {underWay : List (String × ℕ)} {creations : List Creation}

theorem taskIds_pairwise (h : Bookkeeping bar underWay creations) :
    (bar.tasks.map Task.id).Pairwise (· < ·) :=
  List.pairwise_lt_range.sublist h.tasks_sublist

theorem recordedIds_pairwise (h : Bookkeeping bar underWay creations) :
    (underWay.map Prod.snd).Pairwise (· < ·) :=
  h.taskIds_pairwise.sublist h.recorded_sublist

theorem taskIds_nodup (h : Bookkeeping bar underWay creations) : (bar.tasks.map Task.id).Nodup :=
  List.nodup_range.sublist h.tasks_sublist

theorem recordedIds_nodup (h : Bookkeeping bar underWay creations) :
    (underWay.map Prod.snd).Nodup :=
  h.taskIds_nodup.sublist h.recorded_sublist

theorem lt_nextId (h : Bookkeeping bar underWay creations) {id : ℕ}
    (live : id ∈ bar.tasks.map Task.id) : id < bar.nextId :=
  List.mem_range.mp (h.tasks_sublist.mem live)

theorem nextId_notMem (h : Bookkeeping bar underWay creations) :
    bar.nextId ∉ bar.tasks.map Task.id :=
  fun live ↦ (h.lt_nextId live).ne rfl

/-- A number is given to one task only. -/
theorem creation_unique (h : Bookkeeping bar underWay creations) {one other : Creation}
    (hone : one ∈ creations) (hother : other ∈ creations) (same : one.id = other.id) :
    one = other := by
  have hnodup : (creations.map Creation.id).Nodup := by
    rw [h.creations_range]
    exact List.nodup_range
  exact List.inj_on_of_nodup_map hnodup hone hother same

/-- The task of every transfer under way is in the bar. -/
theorem live (h : Bookkeeping bar underWay creations) (url : String) :
    Live ⟨some bar, underWay⟩ bar url :=
  fun _ known ↦ h.recorded_sublist.mem (List.mem_map_of_mem (mem_of_lookup known))

theorem exists_recorded (h : Bookkeeping bar underWay creations) {entry : String × ℕ}
    (known : entry ∈ underWay) : ∃ task ∈ bar.tasks, ∃ creation ∈ creations,
      task.id = entry.2 ∧ creation.call.event.url = entry.1 ∧ creation.Describes task := by
  obtain ⟨task, live, hid⟩ :=
    List.mem_map.mp (h.recorded_sublist.mem (List.mem_map_of_mem known))
  obtain ⟨creation, made, hurl, hnumber⟩ := h.recorded entry known
  obtain ⟨other, hother, described⟩ := h.described task live
  obtain rfl : creation = other :=
    h.creation_unique made hother (hnumber.trans (hid.symm.trans described.1))
  exact ⟨task, live, creation, made, hid, hurl, described⟩

theorem exists_addFailed (h : Bookkeeping bar underWay creations) {task : Task}
    (live : task ∈ bar.tasks) (unknown : task.id ∉ underWay.map Prod.snd) :
    ∃ creation ∈ creations, creation.Describes task ∧ creation.AddFailed := by
  obtain ⟨creation, made, described⟩ := h.described task live
  refine ⟨creation, made, described, (h.addFailed_iff creation made).mpr ?_⟩
  rw [← described.1]
  exact ⟨List.mem_map_of_mem live, unknown⟩

/-- Forgetting a URL and forgetting the number of its task is the same. -/
theorem filter_url_eq_filter_id (h : Bookkeeping bar underWay creations) {url : String} {id : ℕ}
    (known : underWay.lookup url = some id) :
    underWay.filter (fun entry ↦ entry.1 != url) = underWay.filter (fun entry ↦ entry.2 != id) := by
  have hmem := mem_of_lookup known
  apply List.filter_congr
  intro entry hentry
  have same : entry.1 = url ↔ entry.2 = id := by
    constructor
    · intro hurl
      rw [List.inj_on_of_nodup_map h.urls_nodup hentry hmem hurl]
    · intro hid
      rw [List.inj_on_of_nodup_map h.recordedIds_nodup hentry hmem hid]
  rw [Bool.eq_iff_iff]
  simp only [bne_iff_ne, ne_eq, same]

/-! ## Preservation -/

theorem initial : Bookkeeping .empty [] [] where
  urls_nodup := List.nodup_nil
  creations_range := rfl
  tasks_sublist := List.Sublist.slnil
  recorded_sublist := List.Sublist.slnil
  described _ live := absurd live List.not_mem_nil
  recorded _ known := absurd known List.not_mem_nil
  addFailed_iff _ made := absurd made List.not_mem_nil

/-- Whether the bar runs does not matter. -/
theorem setRunning (h : Bookkeeping bar underWay creations) (running : Bool) :
    Bookkeeping { bar with running := running } underWay creations :=
  ⟨h.urls_nodup, h.creations_range, h.tasks_sublist, h.recorded_sublist, h.described, h.recorded,
    h.addFailed_iff⟩

theorem complete (h : Bookkeeping bar underWay creations) (id : ℕ) (completed : Number) :
    Bookkeeping (bar.withCompleted id completed) underWay creations where
  urls_nodup := h.urls_nodup
  creations_range := h.creations_range
  tasks_sublist := by
    rw [ProgressBar.taskIds_withCompleted]
    exact h.tasks_sublist
  recorded_sublist := by
    rw [ProgressBar.taskIds_withCompleted]
    exact h.recorded_sublist
  described task live := by
    obtain ⟨old, hold, hid, hname, htotal⟩ := ProgressBar.exists_of_mem_withCompleted live
    obtain ⟨creation, hcreation, described⟩ := h.described old hold
    refine ⟨creation, hcreation, ?_⟩
    unfold Creation.Describes at described ⊢
    rw [hid, hname, htotal]
    exact described
  recorded := h.recorded
  addFailed_iff := by
    rw [ProgressBar.taskIds_withCompleted]
    exact h.addFailed_iff

theorem creation_lt_nextId (h : Bookkeeping bar underWay creations) {creation : Creation}
    (made : creation ∈ creations) : creation.id < bar.nextId := by
  rw [← List.mem_range, ← h.creations_range]
  exact List.mem_map_of_mem made

theorem range_grown (h : Bookkeeping bar underWay creations) (c : Console) (call : Call) :
    (creations ++ [Creation.mk bar.nextId c call]).map Creation.id =
      List.range (bar.grown call.event).nextId := by
  change _ = List.range (bar.nextId + 1)
  rw [List.map_append, h.creations_range, List.range_succ]
  rfl

theorem sublist_grown (h : Bookkeeping bar underWay creations) (e : Event) :
    ((bar.grown e).tasks.map Task.id).Sublist (List.range (bar.grown e).nextId) := by
  change List.Sublist _ (List.range (bar.nextId + 1))
  rw [ProgressBar.taskIds_grown, List.range_succ]
  exact h.tasks_sublist.append_right [bar.nextId]

theorem described_grown (h : Bookkeeping bar underWay creations) (c : Console) (call : Call) :
    ∀ task ∈ (bar.grown call.event).tasks,
      ∃ creation ∈ creations ++ [Creation.mk bar.nextId c call], creation.Describes task := by
  intro task live
  rcases List.mem_append.mp live with hold | hnew
  · obtain ⟨creation, made, described⟩ := h.described task hold
    exact ⟨creation, List.mem_append_left _ made, described⟩
  · rw [List.mem_singleton.mp hnew]
    exact ⟨⟨bar.nextId, c, call⟩, List.mem_append_right _ List.mem_cons_self, rfl, rfl, rfl⟩

/-- A task whose addition failed is in the bar, and its transfer is not recorded. -/
theorem grow_of_addFailed (h : Bookkeeping bar underWay creations) {c : Console} {call : Call}
    (failed : Creation.AddFailed ⟨bar.nextId, c, call⟩) :
    Bookkeeping (bar.grown call.event) underWay (creations ++ [⟨bar.nextId, c, call⟩]) where
  urls_nodup := h.urls_nodup
  creations_range := h.range_grown c call
  tasks_sublist := h.sublist_grown call.event
  recorded_sublist := by
    rw [ProgressBar.taskIds_grown]
    exact h.recorded_sublist.trans (List.sublist_append_left _ _)
  described := h.described_grown c call
  recorded entry known := by
    obtain ⟨creation, made, same⟩ := h.recorded entry known
    exact ⟨creation, List.mem_append_left _ made, same⟩
  addFailed_iff creation made := by
    rw [ProgressBar.taskIds_grown, List.mem_append, List.mem_singleton]
    rcases List.mem_append.mp made with hold | hnew
    · rw [h.addFailed_iff creation hold, or_iff_left (h.creation_lt_nextId hold).ne]
    · rw [List.mem_singleton.mp hnew]
      have unknown : bar.nextId ∉ underWay.map Prod.snd :=
        fun known ↦ h.nextId_notMem (h.recorded_sublist.mem known)
      exact iff_of_true failed ⟨.inr rfl, unknown⟩

/-- Any other new task is recorded for the URL of its event. -/
theorem grow_of_not_addFailed (h : Bookkeeping bar underWay creations) {c : Console} {call : Call}
    (new : underWay.lookup call.event.url = none)
    (added : ¬ Creation.AddFailed ⟨bar.nextId, c, call⟩) :
    Bookkeeping (bar.grown call.event) (underWay ++ [(call.event.url, bar.nextId)])
      (creations ++ [⟨bar.nextId, c, call⟩]) where
  urls_nodup := by
    rw [List.map_append]
    exact h.urls_nodup.append (List.nodup_singleton _)
      (List.disjoint_singleton.mpr (lookup_eq_none_iff_notMem.mp new))
  creations_range := h.range_grown c call
  tasks_sublist := h.sublist_grown call.event
  recorded_sublist := by
    rw [ProgressBar.taskIds_grown, List.map_append]
    exact h.recorded_sublist.append_right [bar.nextId]
  described := h.described_grown c call
  recorded entry known := by
    rcases List.mem_append.mp known with hold | hnew
    · obtain ⟨creation, made, same⟩ := h.recorded entry hold
      exact ⟨creation, List.mem_append_left _ made, same⟩
    · rw [List.mem_singleton.mp hnew]
      exact ⟨⟨bar.nextId, c, call⟩, List.mem_append_right _ List.mem_cons_self, rfl, rfl⟩
  addFailed_iff creation made := by
    rw [ProgressBar.taskIds_grown, List.map_append, List.mem_append, List.mem_append,
      List.mem_singleton]
    rcases List.mem_append.mp made with hold | hnew
    · have old : creation.id ≠ bar.nextId := (h.creation_lt_nextId hold).ne
      have elsewhere : creation.id ∉ [(call.event.url, bar.nextId)].map Prod.snd :=
        fun known ↦ old (List.mem_singleton.mp known)
      rw [h.addFailed_iff creation hold, or_iff_left old, or_iff_left elsewhere]
    · rw [List.mem_singleton.mp hnew]
      refine iff_of_false added ?_
      rintro ⟨-, unknown⟩
      exact unknown (.inr List.mem_cons_self)

theorem others_ids {c : Console} (h : Bookkeeping bar c.underWay creations) {url : String} {id : ℕ}
    (known : c.underWay.lookup url = some id) :
    (c.others url).map Prod.snd = (c.underWay.map Prod.snd).filter (fun other ↦ other != id) := by
  unfold others
  rw [h.filter_url_eq_filter_id known, List.filter_map]
  rfl

/-- When a transfer is forgotten, its task leaves the bar, and no other task does. -/
theorem release {c : Console} (h : Bookkeeping bar c.underWay creations) (url : String) :
    Bookkeeping (c.freed bar url) (c.others url) creations := by
  unfold Console.freed
  cases known : c.underWay.lookup url with
  | none =>
    rw [others_of_unknown known]
    exact h
  | some id =>
    have recorded : id ∈ c.underWay.map Prod.snd := List.mem_map_of_mem (mem_of_lookup known)
    exact {
      urls_nodup := h.urls_nodup.sublist (List.filter_sublist.map Prod.fst)
      creations_range := h.creations_range
      tasks_sublist := by
        rw [ProgressBar.taskIds_without]
        exact List.filter_sublist.trans h.tasks_sublist
      recorded_sublist := by
        rw [h.others_ids known, ProgressBar.taskIds_without]
        exact h.recorded_sublist.filter _
      described task live := h.described task (List.mem_of_mem_filter live)
      recorded entry hentry := h.recorded entry (List.mem_of_mem_filter hentry)
      addFailed_iff creation made := by
        rw [h.others_ids known, ProgressBar.taskIds_without, List.mem_filter, List.mem_filter,
          h.addFailed_iff creation made, bne_iff_ne]
        constructor
        · rintro ⟨live, unknown⟩
          have other : creation.id ≠ id := fun same ↦ unknown (same ▸ recorded)
          exact ⟨⟨live, other⟩, fun both ↦ unknown both.1⟩
        · rintro ⟨⟨live, other⟩, unknown⟩
          exact ⟨live, fun hmem ↦ unknown ⟨hmem, other⟩⟩ }

end Bookkeeping

variable {c : Console} {call : Call} {bar : ProgressBar}

theorem created_eq_nil (ids : (c.step call).state.taskIds ⊆ c.taskIds) : c.created call = [] := by
  unfold created
  rw [List.map_eq_nil_iff, List.filter_eq_nil_iff]
  intro id live
  rw [decide_eq_true_iff]
  exact not_not_intro (ids live)

theorem created_eq_singleton {id : ℕ} (ids : (c.step call).state.taskIds = c.taskIds ++ [id])
    (new : id ∉ c.taskIds) : c.created call = [⟨id, c, call⟩] := by
  have old : c.taskIds.filter (fun other ↦ other ∉ c.taskIds) = [] := by
    rw [List.filter_eq_nil_iff]
    intro other live
    rw [decide_eq_true_iff]
    exact not_not_intro live
  have fresh : [id].filter (fun other ↦ other ∉ c.taskIds) = [id] :=
    List.filter_cons_of_pos (decide_eq_true new)
  unfold created
  rw [ids, List.filter_append, old, fresh]
  rfl

/-- Adding a task fails only to a bar that runs. -/
theorem Creation.addFailed_iff_of_bar {id : ℕ} (shows : c.bar = some bar) :
    Creation.AddFailed ⟨id, c, call⟩ ↔ bar.running = true ∧ ∃ fault,
      (bar.grown call.event).fault? call.desk.format = some fault ∧
        (c.step call).fault = some fault := by
  constructor
  · rintro ⟨bar', fault, shows', failed, met⟩
    obtain rfl : bar = bar' := Option.some.inj (shows.symm.trans shows')
    obtain ⟨running, drawn⟩ := (ProgressBar.add_error_iff _ bar call.event fault).mp failed
    exact ⟨running, fault, drawn, met⟩
  · rintro ⟨running, fault, drawn, met⟩
    have failed := (ProgressBar.add_error_iff _ bar call.event fault).mpr ⟨running, drawn⟩
    exact ⟨bar, fault, shows, failed, met⟩

/-! ## Runs -/

/-- Every transition keeps the books. -/
theorem Bookkeeping.step {creations : List Creation}
    (h : Bookkeeping bar c.underWay creations) (shows : c.bar = some bar) (call : Call) :
    ∃ next, (c.step call).state.bar = some next ∧
      Bookkeeping next (c.step call).state.underWay (creations ++ c.created call) := by
  have ids := taskIds_of_bar shows
  have fresh : bar.nextId ∉ c.taskIds := ids ▸ h.nextId_notMem
  have move := step_transition call shows
  have nothing : (c.step call).state.taskIds ⊆ bar.tasks.map Task.id → c.created call = [] :=
    fun hsub ↦ created_eq_nil (ids ▸ hsub)
  have one : (c.step call).state.taskIds = bar.tasks.map Task.id ++ [bar.nextId] →
      c.created call = [⟨bar.nextId, c, call⟩] :=
    fun hnew ↦ created_eq_singleton (ids ▸ hnew) fresh
  generalize made : c.step call = s at move nothing one ⊢
  cases move with
  | announced =>
    rw [nothing (ids ▸ List.Subset.refl _), List.append_nil]
    exact ⟨bar, shows, h⟩
  | lost stage id known gone | unremoved stage id known gone =>
    exact absurd (h.live call.event.url id known) gone
  | advanced stage id known =>
    rw [nothing (ProgressBar.taskIds_withCompleted bar id _ ▸ List.Subset.refl _), List.append_nil]
    exact ⟨_, rfl, h.complete id _⟩
  | orphaned stage new running fault drawn =>
    have failed : Creation.AddFailed ⟨bar.nextId, c, call⟩ :=
      (Creation.addFailed_iff_of_bar shows).mpr ⟨running, fault, drawn, congrArg Step.fault made⟩
    rw [one (ProgressBar.taskIds_grown bar call.event)]
    exact ⟨_, rfl, h.grow_of_addFailed failed⟩
  | unstarted stage new idle fault drawn =>
    have added : ¬ Creation.AddFailed ⟨bar.nextId, c, call⟩ := by
      rw [Creation.addFailed_iff_of_bar shows, idle]
      exact fun failed ↦ Bool.false_ne_true failed.1
    rw [one (ProgressBar.taskIds_grown bar call.event)]
    exact ⟨_, rfl, h.grow_of_not_addFailed new added⟩
  | created stage new drawn =>
    have added : ¬ Creation.AddFailed ⟨bar.nextId, c, call⟩ := by
      rw [Creation.addFailed_iff_of_bar shows, drawn]
      rintro ⟨-, fault, hfault, -⟩
      exact Option.some_ne_none fault hfault.symm
    have grown := h.grow_of_not_addFailed new added
    rw [one ((ProgressBar.taskIds_withCompleted _ _ _).trans (ProgressBar.taskIds_grown _ _))]
    exact ⟨_, rfl, (grown.setRunning true).complete _ _⟩
  | left stage busy =>
    rw [conclude_state] at nothing ⊢
    rw [nothing (freed_taskIds_subset c bar _), List.append_nil]
    exact ⟨_, rfl, h.release _⟩
  | interrupted stage alone running fault drawn =>
    rw [nothing (freed_taskIds_subset c bar _), List.append_nil]
    exact ⟨_, rfl, alone ▸ (h.release call.event.url).setRunning false⟩
  | stopped stage alone drawn =>
    rw [conclude_state] at nothing ⊢
    rw [nothing (freed_taskIds_subset c bar _), List.append_nil]
    exact ⟨_, rfl, alone ▸ (h.release call.event.url).setRunning false⟩

/-- The books are kept from any console on. -/
theorem Bookkeeping.run {creations : List Creation} (h : Bookkeeping bar c.underWay creations)
    (shows : c.bar = some bar) (calls : List Call) :
    ∃ next, (c.after calls).bar = some next ∧
      Bookkeeping next (c.after calls).underWay (creations ++ c.creations calls) := by
  induction calls generalizing c bar creations with
  | nil => exact ⟨bar, shows, by rw [Console.creations, List.append_nil]; exact h⟩
  | cons call calls ih =>
    obtain ⟨next, hnext, hstep⟩ := h.step shows call
    obtain ⟨last, hlast, hrun⟩ := ih hstep hnext
    rw [List.append_assoc] at hrun
    exact ⟨last, hlast, hrun⟩

theorem bookkeeping_new (calls : List Call) :
    ∃ bar, ((new true).after calls).bar = some bar ∧
      Bookkeeping bar ((new true).after calls).underWay ((new true).creations calls) := by
  have books : Bookkeeping .empty (new true).underWay [] := .initial
  exact books.run rfl calls

end TransferReport.Console
