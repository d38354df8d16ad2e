import Mathlib.Data.List.Nodup
import TransferReport.Reporter.Basic

/-!
# The two stores of the console

The bar keeps its tasks by their numbers, and the console keeps which number shows the transfer of
each URL.  What every operation does to either store is said here once: which numbers and which
URLs are there afterwards, and which tasks and entries it leaves alone.
-/

namespace TransferReport

/-! ## The tasks of the bar -/

namespace ProgressBar

/-- The bar with a new task for the resource of an event. -/
def grown (bar : ProgressBar) (e : Event) : ProgressBar :=
  bar.withTask e.resource.name (Console.knownLength e.resource.length)

variable {bar : ProgressBar}

/-- The task that an event would create. -/
def newTask (bar : ProgressBar) (e : Event) : Task :=
  ⟨bar.nextId, e.resource.name, Console.knownLength e.resource.length, .int 0⟩

theorem tasks_grown (bar : ProgressBar) (e : Event) :
    (bar.grown e).tasks = bar.tasks ++ [bar.newTask e] := rfl

theorem taskIds_withCompleted (bar : ProgressBar) (id : ℕ) (completed : Number) :
    (bar.withCompleted id completed).tasks.map Task.id = bar.tasks.map Task.id := by
  unfold withCompleted
  rw [List.map_map]
  apply List.map_congr_left
  intro task _
  rw [Function.comp_apply]
  split <;> rfl

/-- A task of the bar is as it was, or it is the one that was updated. -/
theorem cases_of_mem_withCompleted {id : ℕ} {completed : Number} {task : Task}
    (live : task ∈ (bar.withCompleted id completed).tasks) :
    task ∈ bar.tasks ∧ task.id ≠ id ∨
      ∃ old ∈ bar.tasks, old.id = id ∧ task = { old with completed := completed } := by
  obtain ⟨old, hold, rfl⟩ := List.mem_map.mp live
  by_cases same : old.id = id
  · rw [if_pos same]
    exact .inr ⟨old, hold, same, rfl⟩
  · rw [if_neg same]
    exact .inl ⟨hold, same⟩

/-- What is completed is all that changes of a task. -/
theorem exists_of_mem_withCompleted {bar : ProgressBar} {id : ℕ} {completed : Number} {task : Task}
    (live : task ∈ (bar.withCompleted id completed).tasks) :
    ∃ old ∈ bar.tasks, task.id = old.id ∧ task.name = old.name ∧ task.total = old.total := by
  rcases cases_of_mem_withCompleted live with ⟨hold, -⟩ | ⟨old, hold, -, rfl⟩
  · exact ⟨task, hold, rfl, rfl, rfl⟩
  · exact ⟨old, hold, rfl, rfl, rfl⟩

theorem map_withCompleted_of_notMem {tasks : List Task} {id : ℕ} (h : id ∉ tasks.map Task.id)
    (completed : Number) :
    (tasks.map fun t ↦ if t.id = id then { t with completed := completed } else t) = tasks := by
  have same : ∀ t ∈ tasks, (if t.id = id then { t with completed := completed } else t) = t := by
    intro t live
    apply if_neg
    rintro rfl
    exact h (List.mem_map_of_mem live)
  rw [List.map_congr_left same, List.map_id']

/-- Of a bar without equal numbers one task is updated, in its place. -/
theorem withCompleted_of_nodup (nodup : (bar.tasks.map Task.id).Nodup) {front back : List Task}
    {task : Task} (h : bar.tasks = front ++ task :: back) (completed : Number) :
    bar.withCompleted task.id completed =
      { bar with tasks := front ++ { task with completed := completed } :: back } := by
  rw [h, List.map_append, List.map_cons, List.nodup_middle, List.nodup_cons, List.mem_append,
    not_or] at nodup
  unfold withCompleted
  rw [h, List.map_append, List.map_cons, map_withCompleted_of_notMem nodup.1.1,
    map_withCompleted_of_notMem nodup.1.2, if_pos rfl]

theorem taskIds_grown (bar : ProgressBar) (e : Event) :
    (bar.grown e).tasks.map Task.id = bar.tasks.map Task.id ++ [bar.nextId] := by
  unfold grown withTask
  rw [List.map_append]
  rfl

theorem taskIds_without (bar : ProgressBar) (id : ℕ) :
    (bar.without id).tasks.map Task.id =
      (bar.tasks.map Task.id).filter (fun other ↦ other != id) := by
  unfold without
  rw [List.filter_map]
  rfl

theorem without_of_notMem {id : ℕ} (gone : id ∉ bar.tasks.map Task.id) : bar.without id = bar := by
  have kept : bar.tasks.filter (fun task ↦ task.id != id) = bar.tasks := by
    apply List.filter_eq_self.mpr
    intro task live
    rw [bne_iff_ne]
    rintro rfl
    exact gone (List.mem_map_of_mem live)
  unfold without
  rw [kept]

theorem missing?_eq_none_iff {id : ℕ} : bar.missing? id = none ↔ id ∈ bar.tasks.map Task.id := by
  simp [missing?]

theorem missing?_of_notMem {id : ℕ} (gone : id ∉ bar.tasks.map Task.id) :
    bar.missing? id = some (.unknownTask id) := by
  unfold missing?
  rw [if_neg]
  simpa using gone

theorem complete_of_mem {id : ℕ} (live : id ∈ bar.tasks.map Task.id) (completed : Number) :
    bar.complete id completed = (bar.withCompleted id completed, none) := by
  simp only [complete, missing?_eq_none_iff.mpr live]

theorem complete_of_notMem {id : ℕ} (gone : id ∉ bar.tasks.map Task.id) (completed : Number) :
    bar.complete id completed = (bar, some (.unknownTask id)) := by
  simp only [complete, missing?_of_notMem gone]

theorem remove_of_mem {id : ℕ} (live : id ∈ bar.tasks.map Task.id) :
    bar.remove id = (bar.without id, none) := by
  simp only [remove, missing?_eq_none_iff.mpr live]

theorem remove_of_notMem {id : ℕ} (gone : id ∉ bar.tasks.map Task.id) :
    bar.remove id = (bar, some (.unknownTask id)) := by
  simp only [remove, missing?_of_notMem gone]

/-- What is completed of a task does not matter once it is removed. -/
theorem without_withCompleted (bar : ProgressBar) (id : ℕ) (completed : Number) :
    (bar.withCompleted id completed).without id = bar.without id := by
  have same : (fun task ↦ task.id != id) ∘
      (fun task ↦ if task.id = id then { task with completed := completed } else task) =
        fun task : Task ↦ task.id != id := by
    funext task
    rw [Function.comp_apply]
    split <;> rfl
  have removed : id ∉ (bar.tasks.filter fun task ↦ task.id != id).map Task.id := by simp
  unfold without withCompleted
  rw [List.filter_map, same, map_withCompleted_of_notMem removed]

/-- The task with a number. -/
def task? (bar : ProgressBar) (id : ℕ) : Option Task :=
  bar.tasks.find? fun task ↦ task.id = id

theorem isSome_task?_iff {id : ℕ} : (bar.task? id).isSome ↔ id ∈ bar.tasks.map Task.id := by
  simp [task?, List.find?_isSome]

theorem id_of_task? {id : ℕ} {task : Task} (found : bar.task? id = some task) : task.id = id := by
  unfold task? at found
  simpa only [decide_eq_true_eq] using List.find?_some found

theorem task?_withCompleted (bar : ProgressBar) (id other : ℕ) (completed : Number) :
    (bar.withCompleted id completed).task? other =
      (bar.task? other).map fun task ↦
        if task.id = id then { task with completed := completed } else task := by
  have same : (fun task ↦ decide (task.id = other)) ∘
      (fun task ↦ if task.id = id then { task with completed := completed } else task) =
        fun task : Task ↦ decide (task.id = other) := by
    funext task
    rw [Function.comp_apply]
    split <;> rfl
  unfold task? withCompleted
  rw [List.find?_map, same]

theorem task?_withCompleted_of_ne {id other : ℕ} (h : other ≠ id) (completed : Number) :
    (bar.withCompleted id completed).task? other = bar.task? other := by
  rw [task?_withCompleted]
  cases found : bar.task? other with
  | none => rfl
  | some task =>
    have different : task.id ≠ id := id_of_task? found ▸ h
    rw [Option.map_some, if_neg different]

theorem task?_withCompleted_self (bar : ProgressBar) (id : ℕ) (completed : Number) :
    (bar.withCompleted id completed).task? id =
      (bar.task? id).map fun task ↦ { task with completed := completed } := by
  rw [task?_withCompleted]
  apply Option.map_congr
  intro task found
  rw [if_pos (id_of_task? found)]

theorem task?_grown_of_ne {id : ℕ} (h : id ≠ bar.nextId) (e : Event) :
    (bar.grown e).task? id = bar.task? id := by
  have other : ¬ (bar.newTask e).id = id := h.symm
  unfold task?
  rw [tasks_grown, List.find?_append, List.find?_singleton, decide_eq_false other,
    if_neg Bool.false_ne_true, Option.or_none]

theorem task?_grown_self (fresh : bar.nextId ∉ bar.tasks.map Task.id) (e : Event) :
    (bar.grown e).task? bar.nextId = some (bar.newTask e) := by
  have new : bar.task? bar.nextId = none := by
    rw [← Option.not_isSome_iff_eq_none, isSome_task?_iff]
    exact fresh
  unfold task? at new ⊢
  rw [tasks_grown, List.find?_append, new, Option.none_or, List.find?_singleton]
  exact if_pos (decide_eq_true rfl)

theorem task?_without_of_ne {id other : ℕ} (h : other ≠ id) :
    (bar.without id).task? other = bar.task? other := by
  unfold task? without
  rw [List.find?_filter]
  congr 1
  funext task
  by_cases same : task.id = other
  · simp [same, h]
  · simp [same]

/-- Adding a task fails when the bar runs and drawing it with the new task meets a fault. -/
theorem add_error_iff (f : SizeFormat) (bar : ProgressBar) (e : Event) (fault : Fault) :
    (bar.add f e.resource.name (Console.knownLength e.resource.length)).2 = .error fault ↔
      bar.running = true ∧ (bar.grown e).fault? f = some fault := by
  unfold grown
  cases running : bar.running with
  | false => simp [add, running]
  | true =>
    cases drawn : (bar.withTask e.resource.name
        (Console.knownLength e.resource.length)).fault? f with
    | none => simp [add, running, drawn]
    | some met => simp [add, running, drawn]

/-- The bar is drawn task by task, the new one last. -/
theorem fault?_grown (f : SizeFormat) (bar : ProgressBar) (e : Event) :
    (bar.grown e).fault? f = (bar.fault? f).or ((bar.newTask e).fault? f) := by
  unfold fault?
  rw [tasks_grown, List.findSome?_append, List.findSome?_singleton]

/-- The number of a task does not matter when it is drawn. -/
theorem fault?_newTask (f : SizeFormat) (bar other : ProgressBar) (e : Event) :
    (bar.newTask e).fault? f = (other.newTask e).fault? f := rfl

end ProgressBar

/-! ## The transfers under way -/

namespace Console

variable {c : Console} {url : String}

theorem mem_of_lookup {underWay : List (String × ℕ)} {id : ℕ}
    (known : underWay.lookup url = some id) : (url, id) ∈ underWay := by
  obtain ⟨before, after, rfl, -⟩ := List.lookup_eq_some_iff.mp known
  exact List.mem_append_right before List.mem_cons_self

theorem lookup_eq_none_iff_notMem {underWay : List (String × ℕ)} :
    underWay.lookup url = none ↔ url ∉ underWay.map Prod.fst := by
  rw [List.lookup_eq_none_iff]
  constructor
  · intro unknown known
    obtain ⟨entry, hentry, rfl⟩ := List.mem_map.mp known
    exact bne_iff_ne.mp (unknown entry hentry) rfl
  · intro unknown entry hentry
    rw [bne_iff_ne]
    rintro rfl
    exact unknown (List.mem_map_of_mem hentry)

/-- The transfers that stay under way when one ends. -/
def others (c : Console) (url : String) : List (String × ℕ) :=
  c.underWay.filter fun entry ↦ entry.1 != url

theorem others_of_unknown (unknown : c.underWay.lookup url = none) :
    c.others url = c.underWay := by
  unfold others
  rw [List.filter_eq_self]
  intro entry hentry
  rw [bne_comm]
  exact List.lookup_eq_none_iff.mp unknown entry hentry

theorem lookup_others_self (c : Console) (url : String) : (c.others url).lookup url = none := by
  rw [List.lookup_eq_none_iff]
  intro entry hentry
  rw [bne_comm]
  exact (List.mem_filter.mp hentry).2

theorem others_others (c : Console) (bar : Option ProgressBar) (url : String) :
    others ⟨bar, c.others url⟩ url = c.others url := by
  unfold others
  simp only [List.filter_filter, Bool.and_self]

theorem notMem_others (c : Console) (url : String) : url ∉ (c.others url).map Prod.fst :=
  lookup_eq_none_iff_notMem.mp (c.lookup_others_self url)

theorem lookup_others_of_ne {other : String} (h : url ≠ other) :
    (c.others other).lookup url = c.underWay.lookup url := by
  unfold others
  induction c.underWay with
  | nil => rfl
  | cons entry rest ih =>
    rcases entry with ⟨place, id⟩
    rw [List.filter_cons]
    split
    · rw [List.lookup_cons, List.lookup_cons, ih]
    · rename_i dropped
      have same : place = other := by simpa using dropped
      have passed : (url == place) = false := beq_eq_false_iff_ne.mpr (same ▸ h)
      rw [ih, List.lookup_cons, passed]

theorem lookup_append_of_ne {other : String} (h : url ≠ other) (id : ℕ) :
    (c.underWay ++ [(other, id)]).lookup url = c.underWay.lookup url := by
  have passed : [(other, id)].lookup url = none := by
    rw [List.lookup_cons, beq_eq_false_iff_ne.mpr h]
    rfl
  rw [List.lookup_append, passed, Option.or_none]

theorem others_append_self (c : Console) (bar : Option ProgressBar) (url : String) (id : ℕ) :
    others ⟨bar, c.underWay ++ [(url, id)]⟩ url = c.others url := by
  unfold others
  rw [List.filter_append, List.filter_cons_of_neg (by simp), List.filter_nil, List.append_nil]

theorem lookup_append_self (new : c.underWay.lookup url = none) (id : ℕ) :
    (c.underWay ++ [(url, id)]).lookup url = some id := by
  rw [List.lookup_append, new, Option.none_or, List.lookup_cons_self]

/-- The bar without the task of a transfer. -/
def freed (c : Console) (bar : ProgressBar) (url : String) : ProgressBar :=
  match c.underWay.lookup url with
  | some id => bar.without id
  | none => bar

theorem freed_of_notMem {bar : ProgressBar} {id : ℕ} (known : c.underWay.lookup url = some id)
    (gone : id ∉ bar.tasks.map Task.id) : c.freed bar url = bar := by
  unfold freed
  rw [known]
  exact ProgressBar.without_of_notMem gone

theorem release_of_mem {bar : ProgressBar}
    (live : ∀ id, c.underWay.lookup url = some id → id ∈ bar.tasks.map Task.id) :
    c.release bar url = (c.freed bar url, none) := by
  unfold release freed
  cases known : c.underWay.lookup url with
  | none => rfl
  | some id => exact ProgressBar.remove_of_mem (live id known)

theorem release_of_notMem {bar : ProgressBar} {id : ℕ} (known : c.underWay.lookup url = some id)
    (gone : id ∉ bar.tasks.map Task.id) :
    c.release bar url = (bar, some (.unknownTask id)) := by
  unfold release
  rw [known]
  exact ProgressBar.remove_of_notMem gone

@[simp]
theorem freed_running (c : Console) (bar : ProgressBar) (url : String) :
    (c.freed bar url).running = bar.running := by
  unfold freed
  split <;> rfl

theorem freed_tasks_subset (c : Console) (bar : ProgressBar) (url : String) :
    (c.freed bar url).tasks ⊆ bar.tasks := by
  unfold freed
  split
  · exact List.filter_sublist.subset
  · exact List.Subset.refl _

theorem freed_taskIds_subset (c : Console) (bar : ProgressBar) (url : String) :
    (c.freed bar url).tasks.map Task.id ⊆ bar.tasks.map Task.id :=
  List.map_subset Task.id (c.freed_tasks_subset bar url)

end Console

end TransferReport
