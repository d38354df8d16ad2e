import TransferReport.Proofs.Console.Tidy
import TransferReport.Proofs.Size.Mark
import TransferReport.Settings

/-!
# Reports in two locales

With the locale nothing changes but the mark.  The reporters of two locales go through the same
states and meet the same faults, and their texts differ where the one has its mark and the other its
own.  On the console this takes more than the same text of sizes: the line about a success ends with
its sizes, after a blank, so neither an emoji code nor a tab before them can reach into them.
-/

namespace TransferReport

open Reporter (Call)
open Terminal (Inert)

variable {mark other : Char}

/-- The lines have the same beginning, and after a blank they differ in their sizes. -/
def SameLine (mark other : Char) (s t : String) : Prop :=
  ∃ front sizes sizesOther, SameSize mark other sizes sizesOther ∧
    s = front ++ (" " ++ sizes) ∧ t = front ++ (" " ++ sizesOther)

theorem SameLine.same {s t : String} (h : SameLine mark other s t) :
    SameButMark mark other s t := by
  obtain ⟨front, sizes, sizesOther, hsizes, rfl, rfl⟩ := h
  exact (SameButMark.refl _ _ _).append ((SameButMark.refl _ _ _).append hsizes.same)

theorem SameLine.println {s t : String} (h : SameLine mark other s t)
    (names : Terminal.EmojiNames) :
    SameButMark mark other (Terminal.println names s) (Terminal.println names t) := by
  obtain ⟨front, sizes, sizesOther, hsizes, rfl, rfl⟩ := h
  rw [Terminal.println_append_of_inert hsizes.inert,
    Terminal.println_append_of_inert hsizes.inertOther]
  exact ((SameButMark.refl _ _ _).append ((SameButMark.refl _ _ _).append hsizes.same)).append
    (SameButMark.refl _ _ _)

/-- Sizes in brackets at the end of a line. -/
theorem sameLine_of_sizes {s s' t t' : String} (front : String) (h : SameSize mark other s t)
    (h' : SameSize mark other s' t') :
    SameLine mark other (front ++ " (" ++ s ++ s' ++ ")") (front ++ " (" ++ t ++ t' ++ ")") := by
  have hbrackets : SameSize mark other ("(" ++ s ++ s' ++ ")") ("(" ++ t ++ t' ++ ")") :=
    (((SameSize.refl _ _ (by decide)).append h).append h').append (.refl _ _ (by decide))
  have hblank : " (" = " " ++ "(" := rfl
  refine ⟨front, _, _, hbrackets, ?_, ?_⟩
  · simp only [hblank, String.append_assoc]
  · simp only [hblank, String.append_assoc]

/-- The records have the same level and the same text but for the mark. -/
def SameRecord (mark other : Char) (r r' : Record) : Prop :=
  r.level = r'.level ∧ SameButMark mark other r.text r'.text

/-- The steps lead to the same state and meet the same fault, and what is printed and recorded is
the same but for the mark. -/
structure SameStep {State : Type} (mark other : Char) (s t : Step State) : Prop where
  state : s.state = t.state
  fault : s.fault = t.fault
  out : SameButMark mark other s.out t.out
  records : List.Forall₂ (SameRecord mark other) s.records t.records

/-- The same call in another format. -/
def Reporter.Call.withFormat (f : SizeFormat) (call : Call) : Call :=
  { call with desk := { call.desk with format := f } }

theorem SameStep.refl {State : Type} (mark other : Char) (s : Step State) :
    SameStep mark other s s :=
  ⟨rfl, rfl, .refl _ _ _, List.forall₂_same.2 fun _ _ ↦ ⟨rfl, .refl _ _ _⟩⟩

theorem SameStep.map {State Other : Type} {s t : Step State} (h : SameStep mark other s t)
    (view : State → Other) : SameStep mark other (s.map view) (t.map view) :=
  ⟨congrArg view h.state, h.fault, h.out, h.records⟩

theorem LogReport.sameStep_emit {x y : Except Fault String}
    (h : Alike (SameButMark mark other) x y) (threshold : ℕ) (level : Level) :
    SameStep mark other ⟨Reporter.log, "", (emit threshold level x).1, (emit threshold level x).2⟩
      ⟨.log, "", (emit threshold level y).1, (emit threshold level y).2⟩ := by
  cases h with
  | error fault => exact .refl _ _ _
  | ok h =>
    refine ⟨rfl, rfl, .refl _ _ _, ?_⟩
    unfold emit record
    dsimp only
    split_ifs
    · exact .cons ⟨rfl, h⟩ .nil
    · exact .nil

section TwoFormats

variable {f g : SizeFormat} (hf : Inert [f.mark]) (hg : Inert [g.mark])

include hf hg

namespace Message

theorem alike_throughput (clock : Number) (e : Event) :
    Alike (SameSize f.mark g.mark) (throughput f clock e) (throughput g clock e) := by
  apply Alike.bind_left
  intro rate?
  cases rate? with
  | none => exact .ok (.refl _ _ (by decide))
  | some perSecond =>
    apply (SizeFormat.alike_format hf hg perSecond).bind
    intro s t hsize
    exact .ok (((SameSize.refl _ _ (by decide)).append hsize).append (.refl _ _ (by decide)))

theorem alike_succeeded (clock : Number) (e : Event) :
    Alike (SameLine f.mark g.mark) (succeeded f clock e) (succeeded g clock e) := by
  apply (SizeFormat.alike_format hf hg e.transferred).bind
  intro s t hsize
  apply (alike_throughput hf hg clock e).bind
  intro s' t' hspeed
  exact .ok (sameLine_of_sizes _ hsize hspeed)

theorem alike_progress (e : Event) :
    Alike (SameSize f.mark g.mark) (progress f e) (progress g e) :=
  SizeFormat.alike_progress hf hg _ _

end Message

theorem Task.alike_sizeText (task : Task) :
    Alike (SameSize f.mark g.mark) (task.sizeText f) (task.sizeText g) := by
  apply Alike.bind_left
  intro part
  apply Alike.bind_left
  intro whole
  exact SizeFormat.alike_progress hf hg _ _

theorem Task.fault?_congr (task : Task) : task.fault? f = task.fault? g := by
  have halike := task.alike_sizeText hf hg
  have hsize : (Column.size f).fault? task = (Column.size g).fault? task := by
    simp only [Column.fault?]
    generalize task.sizeText f = s at halike ⊢
    generalize task.sizeText g = t at halike ⊢
    cases halike <;> rfl
  rw [fault?_eq_or, fault?_eq_or, hsize]

theorem ProgressBar.fault?_congr (bar : ProgressBar) : bar.fault? f = bar.fault? g := by
  have htasks : Task.fault? f = Task.fault? g := funext (Task.fault?_congr hf hg)
  rw [fault?, fault?, htasks]

theorem Console.update_congr (c : Console) (e : Event) : c.update f e = c.update g e := by
  simp only [update, ProgressBar.add, ProgressBar.start, ProgressBar.fault?_congr hf hg]

theorem Console.finish_congr (c : Console) (e : Event) : c.finish f e = c.finish g e := by
  simp only [finish, ProgressBar.stop, ProgressBar.fault?_congr hf hg]

/-! ## One call -/

theorem Console.alike_lastLine (names : Terminal.EmojiNames) (clock : Number) (stage : Stage)
    (e : Event) :
    Alike (fun s t ↦
        SameButMark f.mark g.mark (Terminal.println names s) (Terminal.println names t))
      (lastLine f clock stage e) (lastLine g clock stage e) := by
  cases stage with
  | succeeded => exact (Message.alike_succeeded hf hg clock e).imp fun _ _ h ↦ h.println names
  | initiated | started | progressed | corrupted | failed => exact .ok (.refl _ _ _)

theorem Console.sameStep_close (names : Terminal.EmojiNames) (c : Console) (clock : Number)
    (stage : Stage) (e : Event) :
    SameStep f.mark g.mark (c.close names f clock stage e) (c.close names g clock stage e) := by
  have hline := alike_lastLine hf hg names clock stage e
  unfold close
  rw [finish_congr hf hg]
  split
  · exact .refl _ _ _
  · generalize lastLine f clock stage e = s at hline
    generalize lastLine g clock stage e = t at hline
    cases hline with
    | ok h => exact ⟨rfl, rfl, (SameButMark.refl _ _ _).append h, .nil⟩
    | error fault => exact .refl _ _ _

theorem Console.sameStep_report (names : Terminal.EmojiNames) (c : Console) (clock : Number)
    (stage : Stage) (e : Event) :
    SameStep f.mark g.mark (c.report names f clock stage e) (c.report names g clock stage e) := by
  cases stage with
  | initiated => exact .refl _ _ _
  | started | progressed =>
    unfold report
    rw [update_congr hf hg]
    exact .refl _ _ _
  | corrupted | succeeded | failed =>
    unfold report
    exact sameStep_close hf hg names c clock _ e

theorem LogReport.sameStep_report (clock : Number) (threshold : ℕ) (names : Terminal.EmojiNames)
    (stage : Stage) (e : Event) :
    SameStep f.mark g.mark (Reporter.log.report ⟨f, clock, threshold, names⟩ stage e)
      (Reporter.log.report ⟨g, clock, threshold, names⟩ stage e) := by
  cases stage with
  | initiated | started | corrupted | failed => exact .refl _ _ _
  | progressed =>
    unfold Reporter.report report
    dsimp only
    split
    · apply sameStep_emit
      apply (Message.alike_progress hf hg e).map
      intro s t htext
      exact (SameButMark.refl _ _ _).append htext.same
    · exact .refl _ _ _
  | succeeded =>
    apply sameStep_emit
    exact (Message.alike_succeeded hf hg clock e).imp fun _ _ ↦ SameLine.same

theorem Reporter.sameStep_report (r : Reporter) (call : Call) :
    SameStep f.mark g.mark (r.report (call.withFormat f).desk call.stage call.event)
      (r.report (call.withFormat g).desk call.stage call.event) := by
  cases r with
  | console c => exact (Console.sameStep_report hf hg _ c _ _ _).map Reporter.console
  | log => exact LogReport.sameStep_report hf hg _ _ _ _ _
  | quiet => exact .refl _ _ _

/-- Two runs from the same state stay in step, as every call leads both to the same state. -/
theorem Reporter.sameStep_run {r r' : Reporter} (same : r = r') (calls : List Call) :
    List.Forall₂ (SameStep f.mark g.mark) (r.run (calls.map (Call.withFormat f)))
      (r'.run (calls.map (Call.withFormat g))) := by
  induction calls generalizing r r' with
  | nil => exact .nil
  | cons call calls ih =>
    subst same
    have hstep := sameStep_report hf hg r call
    exact .cons hstep (ih hstep.state)

end TwoFormats

namespace Settings

variable {locale locale' mode showProgress : Value} {s t : Settings}

/-- Settings are accepted for a known mode and a known locale, and they keep the other values. -/
theorem exists_of_check (h : check locale mode showProgress = .ok s) :
    ∃ asked found, Mode.ofValue? mode = some asked ∧ Locale.ofValue locale = .ok found ∧
      s = ⟨found, mode, showProgress⟩ := by
  unfold check at h
  cases hmode : Mode.ofValue? mode with
  | none =>
    rw [hmode] at h
    cases h
  | some asked =>
    rw [hmode] at h
    obtain ⟨found, hlocale, rfl⟩ := exists_of_map_eq_ok h
    exact ⟨asked, found, rfl, hlocale, rfl⟩

theorem inert_mark_of_check (h : check locale mode showProgress = .ok s) :
    Inert [s.format.mark] := by
  obtain ⟨-, found, -, hlocale, rfl⟩ := exists_of_check h
  have hformat : SizeFormat.ofValue locale = .ok ⟨found⟩ := by
    rw [SizeFormat.ofValue, hlocale]
    rfl
  exact SizeFormat.inert_mark_of_ofValue hformat

/-- Accepted settings that differ in the locale ask for the same reporter. -/
theorem exists_reporter (hs : check locale mode showProgress = .ok s)
    (ht : check locale' mode showProgress = .ok t) :
    ∃ r, s.reporter = .ok r ∧ t.reporter = .ok r := by
  obtain ⟨asked, found, hmode, -, rfl⟩ := exists_of_check hs
  obtain ⟨-, found', -, -, rfl⟩ := exists_of_check ht
  unfold reporter
  rw [hmode]
  cases asked with
  | console | log | quiet => exact ⟨_, rfl, rfl⟩

/-- With all else equal, the sessions of two locales have the same reporter, and in every sequence
of calls they go through the same states, with the same faults.  What they print and record, and the
text of every task, is the same except where the one has its mark and the other its own. -/
theorem sessions_differ_in_mark (hs : check locale mode showProgress = .ok s)
    (ht : check locale' mode showProgress = .ok t) :
    (∃ r, s.reporter = .ok r ∧ t.reporter = .ok r ∧
      ∀ calls : List Call,
        List.Forall₂ (SameStep s.format.mark t.format.mark)
          (r.run (calls.map (Call.withFormat s.format)))
          (r.run (calls.map (Call.withFormat t.format)))) ∧
      ∀ task : Task, Alike (SameButMark s.format.mark t.format.mark)
        (task.sizeText s.format) (task.sizeText t.format) := by
  have hf := inert_mark_of_check hs
  have hg := inert_mark_of_check ht
  obtain ⟨r, hr, hr'⟩ := exists_reporter hs ht
  refine ⟨⟨r, hr, hr', fun calls ↦ Reporter.sameStep_run hf hg rfl calls⟩, fun task ↦ ?_⟩
  exact (task.alike_sizeText hf hg).imp fun _ _ ↦ SameSize.same

/-- An emoji, a tab and a code that is not closed stand before sizes with a point or a comma. -/
theorem sessions_differ_in_mark_comma :
    let english : Settings := ⟨.english, .text "console", .bool true⟩
    let german : Settings := ⟨⟨"de", ','⟩, .text "console", .bool true⟩
    let calls := [Console.download .succeeded " :X:\t:smile" (-1) 1500]
    check (.text "en") (.text "console") (.bool true) = .ok english ∧
      check (.text "de") (.text "console") (.bool true) = .ok german ∧
      ((Reporter.console (.new true)).run (calls.map (Call.withFormat german.format))).map
          Step.out =
        ["\nDownloaded from central: https://r/ ❌  :smile (1,5 kB at 1,5 kB/s)\n"] ∧
      List.Forall₂ (SameStep '.' ',')
        ((Reporter.console (.new true)).run (calls.map (Call.withFormat english.format)))
        ((Reporter.console (.new true)).run (calls.map (Call.withFormat german.format))) := by
  intro english german calls
  have hs : check (.text "en") (.text "console") (.bool true) = .ok english := rfl
  have ht : check (.text "de") (.text "console") (.bool true) = .ok german := rfl
  obtain ⟨⟨r, hr, -, hrun⟩, -⟩ := sessions_differ_in_mark hs ht
  obtain rfl : Reporter.console (.new true) = r := Except.ok.inj hr
  exact ⟨hs, ht, by decide +kernel, hrun calls⟩

end Settings

end TransferReport
