import TransferReport.Proofs.Console.Bookkeeping

/-!
# What is shown of one transfer

While a transfer is under way the bar shows the name, the total and the progress of its task.  A
call leaves what is shown of every other transfer as it was, whether it meets a fault or not.  What
a call without a fault makes of its own transfer depends on nothing but what was shown of it.
-/

namespace TransferReport

open Reporter (Call)

/-- What is shown of a transfer under way. -/
structure Shown where
  name : String
  total : Option Number
  completed : Number

def Task.shown (t : Task) : Shown := ⟨t.name, t.total, t.completed⟩

namespace Console

variable {c : Console} {bar : ProgressBar} {creations : List Creation} {call : Call} {url : String}

theorem Bookkeeping.exists_task (h : Bookkeeping bar c.underWay creations) {id : ℕ}
    (known : c.underWay.lookup url = some id) : ∃ task, bar.task? id = some task :=
  Option.isSome_iff_exists.mp (ProgressBar.isSome_task?_iff.mpr (h.live _ _ known))

/-- Different transfers are shown by different tasks. -/
theorem Bookkeeping.id_ne_of_lookup (h : Bookkeeping bar c.underWay creations) {other : String}
    {id number : ℕ} (different : url ≠ other) (known : c.underWay.lookup url = some id)
    (found : c.underWay.lookup other = some number) : id ≠ number := by
  intro same
  have entries : (url, id) = (other, number) :=
    List.inj_on_of_nodup_map h.recordedIds_nodup (mem_of_lookup known) (mem_of_lookup found) same
  exact different (congrArg Prod.fst entries)

theorem Bookkeeping.task?_freed_of_ne (h : Bookkeeping bar c.underWay creations) {other : String}
    {id : ℕ} (different : url ≠ other) (known : c.underWay.lookup url = some id) :
    (c.freed bar other).task? id = bar.task? id := by
  unfold Console.freed
  cases found : c.underWay.lookup other with
  | none => rfl
  | some number => exact ProgressBar.task?_without_of_ne (h.id_ne_of_lookup different known found)

theorem Bookkeeping.task?_grown (h : Bookkeeping bar c.underWay creations) {id : ℕ}
    (known : c.underWay.lookup url = some id) (e : Event) :
    (bar.grown e).task? id = bar.task? id :=
  ProgressBar.task?_grown_of_ne (h.lt_nextId (h.live _ _ known)).ne e

/-- A call changes neither the number nor the task of any other transfer. -/
theorem Bookkeeping.frame (h : Bookkeeping bar c.underWay creations) (shows : c.bar = some bar)
    (different : url ≠ call.event.url) :
    ∃ next, (c.step call).state.bar = some next ∧
      (c.step call).state.underWay.lookup url = c.underWay.lookup url ∧
      ∀ id, c.underWay.lookup url = some id → next.task? id = bar.task? id := by
  have move := step_transition call shows
  generalize c.step call = s at move ⊢
  cases move with
  | announced => exact ⟨bar, shows, rfl, fun _ _ ↦ rfl⟩
  | lost stage id known gone | unremoved stage id known gone =>
    exact absurd (h.live _ id known) gone
  | advanced stage number found =>
    refine ⟨_, rfl, rfl, fun id known ↦ ?_⟩
    exact ProgressBar.task?_withCompleted_of_ne (h.id_ne_of_lookup different known found) _
  | orphaned stage new running fault drawn =>
    exact ⟨_, rfl, rfl, fun id known ↦ h.task?_grown known _⟩
  | unstarted stage new idle fault drawn =>
    exact ⟨_, rfl, lookup_append_of_ne different _, fun id known ↦ h.task?_grown known _⟩
  | created stage new drawn =>
    refine ⟨_, rfl, lookup_append_of_ne different _, fun id known ↦ ?_⟩
    have old : id ≠ bar.nextId := (h.lt_nextId (h.live _ _ known)).ne
    rw [ProgressBar.task?_withCompleted_of_ne old]
    exact h.task?_grown known _
  | left stage busy =>
    rw [conclude_state]
    exact ⟨_, rfl, lookup_others_of_ne different,
      fun id known ↦ h.task?_freed_of_ne different known⟩
  | interrupted stage alone running fault drawn =>
    refine ⟨_, rfl, ?_, fun id known ↦ h.task?_freed_of_ne different known⟩
    rw [← alone]
    exact lookup_others_of_ne different
  | stopped stage alone drawn =>
    rw [conclude_state]
    refine ⟨_, rfl, ?_, fun id known ↦ h.task?_freed_of_ne different known⟩
    rw [← alone]
    exact lookup_others_of_ne different

/-- What is shown of the transfer of a URL, if it is under way. -/
def shown (c : Console) (url : String) : Option Shown :=
  c.bar.bind fun bar ↦ (c.underWay.lookup url).bind fun id ↦ (bar.task? id).map Task.shown

/-- What a call makes of what is shown of its transfer. -/
def advance (call : Call) (shown : Option Shown) : Option Shown :=
  if call.stage.moves then
    let before := shown.getD
      ⟨call.event.resource.name, knownLength call.event.resource.length, .int 0⟩
    some { before with completed := .int call.event.transferred }
  else if call.stage.ends then none
  else shown

theorem shown_of_lookup {id : ℕ} (shows : c.bar = some bar)
    (known : c.underWay.lookup url = some id) :
    c.shown url = (bar.task? id).map Task.shown := by
  unfold shown
  rw [shows, known, Option.bind_some, Option.bind_some]

theorem shown_of_unknown (unknown : c.underWay.lookup url = none) : c.shown url = none := by
  unfold shown
  rw [unknown]
  cases c.bar <;> rfl

/-- Exactly the transfers under way are shown. -/
theorem Bookkeeping.shown_eq_none_iff (h : Bookkeeping bar c.underWay creations)
    (shows : c.bar = some bar) : c.shown url = none ↔ c.underWay.lookup url = none := by
  refine ⟨fun hidden ↦ ?_, shown_of_unknown⟩
  cases known : c.underWay.lookup url with
  | none => rfl
  | some id =>
    obtain ⟨task, found⟩ := h.exists_task known
    rw [shown_of_lookup shows known, found] at hidden
    cases hidden

theorem Bookkeeping.mem_urls_iff (h : Bookkeeping bar c.underWay creations)
    (shows : c.bar = some bar) : url ∈ c.urls ↔ (c.shown url).isSome := by
  rw [Option.isSome_iff_ne_none, ne_eq, h.shown_eq_none_iff shows, lookup_eq_none_iff_notMem,
    not_not]
  rfl

/-- What is shown of other transfers does not change, even when the call meets a fault. -/
theorem Bookkeeping.shown_step_of_ne (h : Bookkeeping bar c.underWay creations)
    (shows : c.bar = some bar) (different : url ≠ call.event.url) :
    (c.step call).state.shown url = c.shown url := by
  obtain ⟨next, hnext, hlookup, htask⟩ := h.frame shows different
  cases known : c.underWay.lookup url with
  | none =>
    rw [known] at hlookup
    rw [shown_of_unknown known, shown_of_unknown hlookup]
  | some id =>
    rw [known] at hlookup
    rw [shown_of_lookup shows known, shown_of_lookup hnext hlookup, htask id known]

theorem advance_of_ends (ends : call.stage.ends) (before : Option Shown) :
    advance call before = none := by
  unfold advance
  rw [if_neg (Stage.not_moves_of_ends ends), if_pos ends]

theorem advance_of_moves (moves : call.stage.moves) (before : Option Shown) :
    advance call before = some { before.getD
      ⟨call.event.resource.name, knownLength call.event.resource.length, .int 0⟩ with
        completed := .int call.event.transferred } := by
  unfold advance
  rw [if_pos moves]

theorem advance_of_initiated (stage : call.stage = .initiated) (before : Option Shown) :
    advance call before = before := by
  unfold advance
  rw [stage]
  rfl

/-- A call without a fault changes what is shown of its transfer by what was shown of it alone. -/
theorem Bookkeeping.shown_step_self (h : Bookkeeping bar c.underWay creations)
    (shows : c.bar = some bar) (quiet : (c.step call).fault = none) :
    (c.step call).state.shown call.event.url = advance call (c.shown call.event.url) := by
  have move := step_transition call shows
  generalize c.step call = s at move quiet ⊢
  cases move with
  | announced stage => rw [advance_of_initiated stage]
  | advanced stage id known =>
    obtain ⟨task, found⟩ := h.exists_task known
    rw [advance_of_moves stage, shown_of_lookup shows known, found]
    refine (shown_of_lookup (c := ⟨some (bar.withCompleted id _), c.underWay⟩) rfl known).trans ?_
    rw [ProgressBar.task?_withCompleted_self, found]
    rfl
  | lost | orphaned | unstarted | unremoved | interrupted =>
    exact absurd quiet (Option.some_ne_none _)
  | created stage new drawn =>
    have found : ProgressBar.task? { bar.grown call.event with running := true } bar.nextId =
        some (bar.newTask call.event) :=
      ProgressBar.task?_grown_self h.nextId_notMem call.event
    rw [advance_of_moves stage, shown_of_unknown new]
    refine (shown_of_lookup rfl (lookup_append_self new _)).trans ?_
    rw [ProgressBar.task?_withCompleted_self, found]
    rfl
  | left stage busy =>
    rw [conclude_state, advance_of_ends stage]
    exact shown_of_unknown (lookup_others_self c _)
  | stopped stage alone drawn =>
    rw [conclude_state, advance_of_ends stage]
    exact shown_of_unknown rfl

end Console

end TransferReport
