import TransferReport.Proofs.Console.Output
import TransferReport.Proofs.Console.Shown
import TransferReport.Proofs.Console.Tidy

/-!
# Independence of interleaved transfers

The calls about one URL can be taken out of a run and made on a console of their own.  If no call of
the run meets a fault, then none of the calls taken out does, and they show and print the same about
the URL.  The two consoles differ in the numbers of the tasks, in whether the bar runs, and in when
it is drawn and stopped.
-/

namespace TransferReport

open Reporter (Call)

namespace Console

variable {c : Console} {bar : ProgressBar} {creations : List Creation} {call : Call} {url : String}

/-- A call without a fault that creates a task has drawn it. -/
theorem newTask_drawn_of_quiet (shows : c.bar = some bar) (quiet : (c.step call).fault = none)
    (stage : call.stage.moves) (new : c.underWay.lookup call.event.url = none) :
    (bar.newTask call.event).fault? call.desk.format = none := by
  rw [fault_step_of_new shows stage new, ProgressBar.fault?_grown, Option.or_eq_none_iff] at quiet
  exact quiet.2

/-- On a tidy console that has no other transfer under way, a call meets no fault if its message can
be told and its task, if it creates one, can be drawn. -/
theorem quiet_of_alone (books : Bookkeeping bar c.underWay creations) (tidy : Tidy bar c.underWay)
    (shows : c.bar = some bar) (alone : ∀ place ∈ c.urls, place = call.event.url)
    (drawn : call.stage.moves → c.underWay.lookup call.event.url = none →
      (bar.newTask call.event).fault? call.desk.format = none)
    {text : String} (told : message call = .ok text) : (c.step call).fault = none := by
  have nobody : c.others call.event.url = [] := by
    unfold others
    rw [List.filter_eq_nil_iff]
    intro entry hentry
    rw [alone entry.1 (List.mem_map_of_mem hentry), bne_self_eq_false]
    exact Bool.false_ne_true
  have released : (c.freed bar call.event.url).fault? call.desk.format = none := by
    have ids := tidy.freed_ids books call.event.url
    rw [nobody, List.map_nil, List.map_eq_nil_iff] at ids
    unfold ProgressBar.fault?
    rw [ids]
    rfl
  have grown (stage : call.stage.moves) (new : c.underWay.lookup call.event.url = none) :
      (bar.grown call.event).fault? call.desk.format = none := by
    have empty : c.underWay = [] := by
      rw [← others_of_unknown new]
      exact nobody
    have tasks := tidy.ids
    rw [empty, List.map_nil, List.map_eq_nil_iff] at tasks
    rw [ProgressBar.fault?_grown, drawn stage new, Option.or_none]
    unfold ProgressBar.fault?
    rw [tasks]
    rfl
  have move := step_transition call shows
  generalize c.step call = s at move ⊢
  cases move with
  | announced | advanced | created => rfl
  | lost stage id known gone | unremoved stage id known gone =>
    exact absurd (books.live _ id known) gone
  | orphaned stage new running fault met =>
    rw [grown stage new] at met
    exact met.symm
  | unstarted stage new idle fault met =>
    rw [grown stage new] at met
    exact met.symm
  | left stage busy => exact absurd nobody busy
  | interrupted stage alone running fault met =>
    rw [released] at met
    exact met.symm
  | stopped stage alone drawn => rw [conclude_of_message stage told]

/-- A call brings no transfer under way but its own. -/
theorem urls_step_subset (shows : c.bar = some bar) :
    (c.step call).state.urls ⊆ call.event.url :: c.urls := by
  have recorded : (c.underWay ++ [(call.event.url, bar.nextId)]).map Prod.fst ⊆
      call.event.url :: c.urls := by
    rw [List.map_append]
    exact List.append_subset.mpr
      ⟨List.subset_cons_self _ _, List.cons_subset_cons _ (List.nil_subset _)⟩
  have fewer : (c.others call.event.url).map Prod.fst ⊆ call.event.url :: c.urls :=
    List.subset_cons_of_subset _ (List.map_subset _ List.filter_sublist.subset)
  have move := step_transition call shows
  generalize c.step call = s at move ⊢
  cases move with
  | announced | advanced | lost | orphaned => exact List.subset_cons_self _ _
  | unstarted | created => exact recorded
  | left stage busy =>
    rw [conclude_state]
    exact fewer
  | unremoved => exact fewer
  | interrupted => exact List.nil_subset _
  | stopped =>
    rw [conclude_state]
    exact List.nil_subset _

/-! ## A run and the calls about one URL -/

/-- The calls about one URL. -/
def about (url : String) (calls : List Call) : List Call :=
  calls.filter fun call ↦ call.event.url = url

/-- The second console shows the transfer of a URL as the first one does, and no other one. -/
structure Follows (url : String) (c own : Console) : Prop where
  books : ∃ bar creations, c.bar = some bar ∧ Bookkeeping bar c.underWay creations
  ownBooks : ∃ bar creations, own.bar = some bar ∧ Bookkeeping bar own.underWay creations ∧
    Tidy bar own.underWay
  alone : ∀ place ∈ own.urls, place = url
  shown : own.shown url = c.shown url

/-- The same call, with the same message but for the empty line of stopping the bar. -/
def SameReport (one other : Call × Step Console) : Prop :=
  one.1 = other.1 ∧ ∃ text, message one.1 = .ok text ∧
    one.2.out = stopLine one.1 one.2.state ++ text ∧
    other.2.out = stopLine other.1 other.2.state ++ text

namespace Follows

variable {own : Console}

theorem initial (url : String) : Follows url (new true) (new true) where
  books := ⟨.empty, [], rfl, .initial⟩
  ownBooks := ⟨.empty, [], rfl, .initial, .initial⟩
  alone _ known := absurd known List.not_mem_nil
  shown := rfl

theorem books_step (h : Follows url c own) (call : Call) :
    ∃ bar creations, (c.step call).state.bar = some bar ∧
      Bookkeeping bar (c.step call).state.underWay creations := by
  obtain ⟨bar, creations, shows, books⟩ := h.books
  obtain ⟨next, hnext, kept⟩ := books.step shows call
  exact ⟨next, _, hnext, kept⟩

/-- Calls about other URLs are not followed. -/
theorem step_of_ne (h : Follows url c own) (different : url ≠ call.event.url) :
    Follows url (c.step call).state own where
  books := h.books_step call
  ownBooks := h.ownBooks
  alone := h.alone
  shown := by
    obtain ⟨bar, creations, shows, books⟩ := h.books
    rw [books.shown_step_of_ne shows different]
    exact h.shown

/-- A call about the URL meets no fault on its own where it has met none among the others. -/
theorem quiet (h : Follows call.event.url c own) (quiet : (c.step call).fault = none) :
    (own.step call).fault = none := by
  obtain ⟨bar, creations, shows, books⟩ := h.books
  obtain ⟨ownBar, ownCreations, ownShows, ownBooks, tidy⟩ := h.ownBooks
  obtain ⟨text, told, -⟩ := out_of_quiet shows quiet
  refine quiet_of_alone ownBooks tidy ownShows h.alone (fun stage new ↦ ?_) told
  have unknown : c.underWay.lookup call.event.url = none := by
    rw [← books.shown_eq_none_iff shows, ← h.shown]
    exact shown_of_unknown new
  rw [ProgressBar.fault?_newTask _ ownBar bar]
  exact newTask_drawn_of_quiet shows quiet stage unknown

theorem step (h : Follows call.event.url c own) (quiet : (c.step call).fault = none) :
    Follows call.event.url (c.step call).state (own.step call).state where
  books := h.books_step call
  ownBooks := by
    obtain ⟨bar, creations, shows, books, tidy⟩ := h.ownBooks
    obtain ⟨next, hnext, kept⟩ := books.step shows call
    obtain ⟨next', hnext', tidied⟩ := tidy.step books shows (h.quiet quiet)
    obtain rfl : next = next' := Option.some.inj (hnext.symm.trans hnext')
    exact ⟨next, _, hnext, kept, tidied⟩
  alone := by
    obtain ⟨bar, creations, shows, books, tidy⟩ := h.ownBooks
    intro place known
    rcases List.mem_cons.mp (urls_step_subset shows known) with same | old
    · exact same
    · exact h.alone place old
  shown := by
    obtain ⟨bar, creations, shows, books⟩ := h.books
    obtain ⟨ownBar, ownCreations, ownShows, ownBooks, -⟩ := h.ownBooks
    rw [books.shown_step_self shows quiet, ownBooks.shown_step_self ownShows (h.quiet quiet),
      h.shown]

theorem sameReport (h : Follows call.event.url c own) (quiet : (c.step call).fault = none) :
    SameReport (call, own.step call) (call, c.step call) := by
  obtain ⟨bar, creations, shows, books⟩ := h.books
  obtain ⟨ownBar, ownCreations, ownShows, -⟩ := h.ownBooks
  obtain ⟨text, told, printed⟩ := out_of_quiet shows quiet
  obtain ⟨text', told', ownPrinted⟩ := out_of_quiet ownShows (h.quiet quiet)
  obtain rfl : text = text' := Except.ok.inj (told.symm.trans told')
  exact ⟨rfl, text, told, ownPrinted, printed⟩

/-- The calls about the URL, made on their own, follow the whole run. -/
theorem run (h : Follows url c own) {calls : List Call}
    (quiet : ∀ made ∈ c.trace calls, made.2.fault = none) :
    (∀ made ∈ own.trace (about url calls), made.2.fault = none) ∧
      Follows url (c.after calls) (own.after (about url calls)) ∧
      List.Forall₂ SameReport (own.trace (about url calls))
        ((c.trace calls).filter fun made ↦ made.1.event.url = url) := by
  induction calls generalizing c own with
  | nil => exact ⟨fun _ known ↦ absurd known List.not_mem_nil, h, .nil⟩
  | cons call calls ih =>
    rw [trace_cons, List.forall_mem_cons] at quiet
    by_cases same : call.event.url = url
    · subst same
      obtain ⟨hquiet, hfollows, hreports⟩ := ih (h.step quiet.1) quiet.2
      rw [about, List.filter_cons_of_pos (by simp), trace_cons, trace_cons,
        List.filter_cons_of_pos (by simp)]
      refine ⟨?_, hfollows, .cons (h.sameReport quiet.1) hreports⟩
      exact List.forall_mem_cons.mpr ⟨h.quiet quiet.1, hquiet⟩
    · obtain ⟨hquiet, hfollows, hreports⟩ := ih (h.step_of_ne (Ne.symm same)) quiet.2
      rw [about, List.filter_cons_of_neg (by simpa using same), trace_cons,
        List.filter_cons_of_neg (by simpa using same)]
      exact ⟨hquiet, hfollows, hreports⟩

end Follows

/-- In a run without a fault the reports about one URL are those of its own calls alone: made on a
new console they meet no fault, leave the transfer under way or not as in the whole run, with the
same name, total and progress, and print the same messages. -/
theorem independent_of_others (calls : List Call) (url : String)
    (quiet : ∀ made ∈ (new true).trace calls, made.2.fault = none) :
    (∀ made ∈ (new true).trace (about url calls), made.2.fault = none) ∧
      (url ∈ ((new true).after (about url calls)).urls ↔ url ∈ ((new true).after calls).urls) ∧
      ((new true).after (about url calls)).shown url = ((new true).after calls).shown url ∧
      List.Forall₂ SameReport ((new true).trace (about url calls))
        (((new true).trace calls).filter fun made ↦ made.1.event.url = url) := by
  obtain ⟨ownQuiet, follows, reports⟩ := (Follows.initial url).run quiet
  refine ⟨ownQuiet, ?_, follows.shown, reports⟩
  obtain ⟨bar, creations, shows, books⟩ := follows.books
  obtain ⟨ownBar, ownCreations, ownShows, ownBooks, -⟩ := follows.ownBooks
  rw [ownBooks.mem_urls_iff ownShows, books.mem_urls_iff shows, follows.shown]

/-- The first of two overlapping downloads, without the second one. -/
theorem independent_of_others_overlap :
    (∀ made ∈ (new true).trace [download .started "a" 5 0, download .started "b" 7 2,
        download .progressed "a" 5 3], made.2.fault = none) ∧
      ((new true).after [download .started "a" 5 0,
          download .progressed "a" 5 3]).shown "https://r/a" =
        ((new true).after [download .started "a" 5 0, download .started "b" 7 2,
          download .progressed "a" 5 3]).shown "https://r/a" := by
  have quiet : ∀ made ∈ (new true).trace [download .started "a" 5 0, download .started "b" 7 2,
      download .progressed "a" 5 3], made.2.fault = none := by
    decide +kernel
  have own : about "https://r/a" [download .started "a" 5 0, download .started "b" 7 2,
      download .progressed "a" 5 3] =
        [download .started "a" 5 0, download .progressed "a" 5 3] := by
    rfl
  refine ⟨quiet, ?_⟩
  rw [← own]
  exact (independent_of_others _ "https://r/a" quiet).2.2.1

end Console

end TransferReport
