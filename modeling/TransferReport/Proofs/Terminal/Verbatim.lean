import TransferReport.Proofs.Terminal.Line

/-!
# Lines that are written as they are

A message is written as it is exactly if it has no tab and no control that is dropped, and if none
of the codes that a scan from left to right meets has a known name.  The scan is that of `Codes`,
which says what a code is and where the next one may begin: a code takes both its colons with it, so
an unknown one can hide a known one behind it.  An emoji without a colon can never bring back the
colons of the code that it replaces, so a replacement always shows.
-/

namespace TransferReport.Terminal

variable {names : EmojiNames} {c : Char} {s code other rest : List Char}
  {codes : List (List Char)}

/-- A text that can stand between the two colons of a code. -/
def IsCode (code : List Char) : Prop :=
  ∀ c ∈ code, c ≠ ':' ∧ Text.isBlank c = false

instance (code : List Char) : Decidable (IsCode code) :=
  List.decidableBAll (fun c ↦ c ≠ ':' ∧ Text.isBlank c = false) code

/-- The codes that a scan of the text meets, from left to right.  A colon that begins no code is
passed over like any other character. -/
inductive Codes : List Char → List (List Char) → Prop
  | nil : Codes [] []
  | other {c : Char} {s : List Char} {codes : List (List Char)} (plain : c ≠ ':')
      (later : Codes s codes) : Codes (c :: s) codes
  | unclosed {s : List Char} {codes : List (List Char)}
      (alone : ∀ code rest, IsCode code → s ≠ code ++ ':' :: rest) (later : Codes s codes) :
      Codes (':' :: s) codes
  | code {s code rest : List Char} {codes : List (List Char)} (proper : IsCode code)
      (closed : s = code ++ ':' :: rest) (later : Codes rest codes) :
      Codes (':' :: s) (code :: codes)

/-- The name in a code: what stands before the form that the code asks for, or all of it. -/
inductive HasName (code : List Char) : List Char → Prop
  | withForm (name : List Char) (form : List Char × Char) (listed : form ∈ emojiForms)
      (split : code = name ++ form.1) : HasName code name
  | alone (bare : ∀ form ∈ emojiForms, ¬ form.1 <:+ code) : HasName code code

/-- The name in the code stands for an emoji. -/
def Known (names : EmojiNames) (code : List Char) : Prop :=
  ∃ name text, HasName code name ∧ names name = some text

theorem closeCode_append (proper : IsCode code) (rest : List Char) :
    closeCode (code ++ ':' :: rest) = some (code, rest) := by
  induction code with
  | nil => rfl
  | cons c code ih =>
    obtain ⟨⟨hcolon, hblank⟩, hcode⟩ := List.forall_mem_cons.1 proper
    rw [List.cons_append, closeCode, if_neg hcolon, if_neg (Bool.eq_false_iff.1 hblank), ih hcode]
    rfl

theorem proper_of_closeCode (h : closeCode s = some (code, rest)) :
    IsCode code ∧ s = code ++ ':' :: rest := by
  induction s generalizing code with
  | nil => cases h
  | cons c s ih =>
    rw [closeCode] at h
    split_ifs at h with hcolon hblank
    · cases h
      rw [hcolon]
      exact ⟨fun _ hc ↦ absurd hc List.not_mem_nil, rfl⟩
    · obtain ⟨⟨code', rest'⟩, hsplit, heq⟩ := Option.map_eq_some_iff.1 h
      obtain ⟨rfl, rfl⟩ := Prod.mk.inj heq
      obtain ⟨proper, rfl⟩ := ih hsplit
      exact ⟨List.forall_mem_cons.2 ⟨⟨hcolon, Bool.eq_false_iff.2 hblank⟩, proper⟩, rfl⟩

theorem closeCode_eq_none (alone : ∀ code rest, IsCode code → s ≠ code ++ ':' :: rest) :
    closeCode s = none := by
  cases h : closeCode s with
  | none => rfl
  | some split =>
    obtain ⟨proper, closed⟩ := proper_of_closeCode h
    exact absurd closed (alone split.1 split.2 proper)

/-- A code ends at the next colon, so there is only one. -/
theorem code_unique (proper : IsCode code) (proper' : IsCode other) {rest' : List Char}
    (h : code ++ ':' :: rest = other ++ ':' :: rest') : code = other ∧ rest = rest' := by
  have hclose := closeCode_append proper rest
  rw [h, closeCode_append proper' rest'] at hclose
  obtain ⟨rfl, rfl⟩ := Prod.mk.inj (Option.some.inj hclose)
  exact ⟨rfl, rfl⟩

/-- Every text can be scanned. -/
theorem exists_codes (s : List Char) : ∃ codes, Codes s codes := by
  -- the recursion is that of the replacement: after a code the scan goes on behind it
  fun_induction replaceEmojis (fun _ ↦ none) s with
  | case1 => exact ⟨[], .nil⟩
  | case2 cs code rest closed _ ih =>
    obtain ⟨codes, later⟩ := ih
    obtain ⟨proper, hsplit⟩ := proper_of_closeCode closed
    exact ⟨code :: codes, .code proper hsplit later⟩
  | case3 cs unclosed ih =>
    obtain ⟨codes, later⟩ := ih
    refine ⟨codes, .unclosed (fun code rest proper hsplit ↦ ?_) later⟩
    rw [hsplit, closeCode_append proper rest] at unclosed
    cases unclosed
  | case4 c cs hcolon ih =>
    obtain ⟨codes, later⟩ := ih
    exact ⟨codes, .other hcolon later⟩

/-- What stands before the first colon is passed over. -/
theorem Codes.append_plain {p : List Char} (h : Codes s codes) (plain : ':' ∉ p) :
    Codes (p ++ s) codes := by
  induction p with
  | nil => exact h
  | cons c p ih =>
    rw [List.mem_cons, not_or] at plain
    exact .other (Ne.symm plain.1) (ih plain.2)

/-- The codes of a text are determined by it. -/
theorem Codes.unique {codes' : List (List Char)} (h : Codes s codes) (h' : Codes s codes') :
    codes = codes' := by
  induction h generalizing codes' with
  | nil =>
    cases h'
    rfl
  | other plain later ih =>
    cases h' with
    | other _ later' => exact ih later'
    | unclosed | code => exact absurd rfl plain
  | unclosed alone later ih =>
    cases h' with
    | other plain' => exact absurd rfl plain'
    | unclosed _ later' => exact ih later'
    | code proper' closed' => exact absurd closed' (alone _ _ proper')
  | code proper closed later ih =>
    cases h' with
    | other plain' => exact absurd rfl plain'
    | unclosed alone' => exact absurd closed (alone' _ _ proper)
    | code proper' closed' later' =>
      obtain ⟨rfl, rfl⟩ := code_unique proper proper' (closed.symm.trans closed')
      rw [ih later']

/-! ## Known codes -/

/-- No code ends in two forms. -/
theorem form_unique {name name' : List Char} {form form' : List Char × Char}
    (listed : form ∈ emojiForms) (listed' : form' ∈ emojiForms)
    (h : name ++ form.1 = name' ++ form'.1) : form = form' := by
  have hlast := congrArg List.getLast? h
  simp only [emojiForms, List.mem_cons, List.not_mem_nil, or_false] at listed listed'
  rcases listed with rfl | rfl <;> rcases listed' with rfl | rfl
  · rfl
  · simp at hlast
  · simp at hlast
  · rfl

theorem HasName.unique {name name' : List Char} (h : HasName code name) (h' : HasName code name') :
    name = name' := by
  cases h with
  | withForm name form listed split =>
    cases h' with
    | withForm name' form' listed' split' =>
      rw [split] at split'
      obtain rfl := form_unique listed listed' split'
      exact List.append_cancel_right split'
    | alone bare => exact absurd ⟨name, split.symm⟩ (bare form listed)
  | alone bare =>
    cases h' with
    | withForm name' form' listed' split' => exact absurd ⟨name', split'.symm⟩ (bare form' listed')
    | alone => rfl

/-- A code is expanded if its name is known, to the text of the name with the form asked for. -/
theorem exists_hasName (names : EmojiNames) (code : List Char) :
    ∃ name form, HasName code name ∧ ':' ∉ form ∧
      expandCode names code = (names name).map (· ++ form) := by
  unfold expandCode
  cases hfind : emojiForms.find? fun form ↦ form.1.isSuffixOf code with
  | none =>
    have bare : ∀ form ∈ emojiForms, ¬ form.1 <:+ code := by
      intro form listed suffix
      exact List.find?_eq_none.1 hfind form listed (List.isSuffixOf_iff_suffix.2 suffix)
    refine ⟨code, [], .alone bare, List.not_mem_nil, ?_⟩
    simp
  | some form =>
    have listed := List.mem_of_find?_eq_some hfind
    have suffix : form.1 <:+ code := by simpa using List.find?_some hfind
    obtain ⟨name, rfl⟩ := suffix
    have selector : ∀ form ∈ emojiForms, ':' ∉ [form.2] := by decide
    refine ⟨name, [form.2], .withForm name form listed rfl, selector form listed, ?_⟩
    simp

theorem expandCode_eq_none_iff : expandCode names code = none ↔ ¬ Known names code := by
  obtain ⟨name, form, hname, -, hexpand⟩ := exists_hasName names code
  rw [hexpand, Option.map_eq_none_iff, Option.eq_none_iff_forall_ne_some]
  constructor
  · rintro unknown ⟨name', text, hname', htext⟩
    rw [hname'.unique hname] at htext
    exact unknown text htext
  · intro unknown text htext
    exact unknown ⟨name, text, hname, htext⟩

/-- The texts of the known names have no colon. -/
def NoColon (names : EmojiNames) : Prop :=
  ∀ name text, names name = some text → ':' ∉ text

theorem count_expandCode (plain : NoColon names) {text : List Char}
    (h : expandCode names code = some text) : text.count ':' = 0 := by
  obtain ⟨name, form, -, hform, hexpand⟩ := exists_hasName names code
  rw [hexpand] at h
  obtain ⟨base, hbase, rfl⟩ := Option.map_eq_some_iff.1 h
  rw [List.count_eq_zero, List.mem_append, not_or]
  exact ⟨plain name base hbase, hform⟩

theorem replaceEmojis_eq_self (h : Codes s codes) (unknown : ∀ code ∈ codes, ¬ Known names code) :
    replaceEmojis names s = s := by
  induction h with
  | nil => exact replaceEmojis_nil
  | other plain later ih => rw [replaceEmojis_cons_of_ne plain, ih unknown]
  | unclosed alone later ih =>
    rw [replaceEmojis_colon_of_unclosed (closeCode_eq_none alone), ih unknown]
  | code proper closed later ih =>
    obtain ⟨hcode, hcodes⟩ := List.forall_mem_cons.1 unknown
    rw [closed, replaceEmojis_colon_of_closed (closeCode_append proper _),
      expandCode_eq_none_iff.2 hcode, ih hcodes]
    simp

theorem count_code (proper : IsCode code) (rest : List Char) :
    (':' :: (code ++ ':' :: rest)).count ':' = rest.count ':' + 2 := by
  have hcode : code.count ':' = 0 := List.count_eq_zero.2 fun hmem ↦ (proper ':' hmem).1 rfl
  rw [List.count_cons_self, List.count_append, hcode, Nat.zero_add, List.count_cons_self]

/-- Every known code takes its two colons away, and no other colon goes or comes. -/
theorem count_replaceEmojis (plain : NoColon names) (h : Codes s codes) :
    s.count ':' = (replaceEmojis names s).count ':' +
      2 * codes.countP fun code ↦ (expandCode names code).isSome := by
  induction h with
  | nil => simp [replaceEmojis_nil]
  | other hcolon later ih =>
    rw [replaceEmojis_cons_of_ne hcolon, List.count_cons_of_ne hcolon, List.count_cons_of_ne hcolon,
      ih]
  | unclosed alone later ih =>
    rw [replaceEmojis_colon_of_unclosed (closeCode_eq_none alone), List.count_cons_self,
      List.count_cons_self, ih]
    omega
  | @code _ code rest _ proper closed later ih =>
    rw [closed, replaceEmojis_colon_of_closed (closeCode_append proper rest),
      count_code proper rest, List.countP_cons, ih]
    cases hexpand : expandCode names code with
    | none =>
      have hsame : (none.getD (':' :: code ++ [':']) ++ replaceEmojis names rest).count ':' =
          (replaceEmojis names rest).count ':' + 2 := by
        rw [← count_code proper]
        simp
      rw [hsame, Option.isSome_none, if_neg Bool.false_ne_true]
      omega
    | some text =>
      rw [Option.getD_some, List.count_append, count_expandCode plain hexpand, Option.isSome_some,
        if_pos rfl]
      omega

theorem unknown_of_count_eq (plain : NoColon names) (h : Codes s codes)
    (same : (replaceEmojis names s).count ':' = s.count ':') :
    ∀ code ∈ codes, ¬ Known names code := by
  have hnone : codes.countP (fun code ↦ (expandCode names code).isSome) = 0 := by
    have hcount := count_replaceEmojis plain h
    omega
  intro code hmem
  rw [← expandCode_eq_none_iff, ← Option.not_isSome_iff_eq_none]
  exact List.countP_eq_zero.1 hnone code hmem

/-! ## Characters that are never written -/

/-- Tab, bell, backspace, vertical tab, form feed and carriage return. -/
def unwritten : List Char :=
  ['\t', '\x07', '\x08', '\x0B', '\x0C', '\r']

theorem mem_unwritten_iff : c ∈ unwritten ↔ c = '\t' ∨ isCursorControl c = true := by
  simp only [unwritten, List.mem_cons, List.not_mem_nil, or_false, isCursorControl, Bool.or_eq_true,
    decide_eq_true_eq, or_assoc, ← Char.toNat_inj]
  exact Iff.rfl

theorem mem_expandTabs (m : Text.Measure) (h : c ∈ expandTabs m s) :
    c ≠ '\t' ∧ (c = ' ' ∨ c ∈ s) := by
  induction s generalizing m with
  | nil => cases h
  | cons d s ih =>
    have later (m : Text.Measure) (h : c ∈ expandTabs m s) :
        c ≠ '\t' ∧ (c = ' ' ∨ c ∈ d :: s) := by
      obtain ⟨hne, horigin⟩ := ih m h
      exact ⟨hne, horigin.imp_right (List.mem_cons_of_mem d)⟩
    have first (hd : d ≠ '\t') (h : c = d) : c ≠ '\t' ∧ (c = ' ' ∨ c ∈ d :: s) := by
      rw [h]
      exact ⟨hd, .inr List.mem_cons_self⟩
    rw [expandTabs] at h
    split_ifs at h with htab hline
    · rcases List.mem_append.1 h with hspace | hlater
      · rw [List.eq_of_mem_replicate hspace]
        exact ⟨by decide, .inl rfl⟩
      · exact later {} hlater
    · rcases List.mem_cons.1 h with hfirst | hlater
      · exact first htab hfirst
      · exact later {} hlater
    · rcases List.mem_cons.1 h with hfirst | hlater
      · exact first htab hfirst
      · exact later (m.step d) hlater

/-- No tab and no dropped control is ever written. -/
theorem notMem_shown (h : c ∈ unwritten) (names : EmojiNames) (s : List Char) :
    c ∉ shown names s := by
  intro hmem
  obtain ⟨htab, horigin⟩ := mem_expandTabs {} hmem
  have hcontrol : isCursorControl c = true := (mem_unwritten_iff.1 h).resolve_left htab
  rcases horigin with rfl | hkept
  · cases hcontrol
  · have hdropped := (List.mem_filter.1 hkept).2
    rw [hcontrol] at hdropped
    cases hdropped

theorem count_expandTabs (m : Text.Measure) (s : List Char) :
    (expandTabs m s).count ':' = s.count ':' := by
  induction s generalizing m with
  | nil => rfl
  | cons c s ih =>
    rw [expandTabs]
    split_ifs with htab hline
    · rw [htab, List.count_append, List.count_replicate, ih, if_neg (by decide), Nat.zero_add,
        List.count_cons_of_ne (by decide)]
    · rw [List.count_cons, List.count_cons, ih]
    · rw [List.count_cons, List.count_cons, ih]

theorem count_shown (names : EmojiNames) (s : List Char) :
    (shown names s).count ':' = (replaceEmojis names s).count ':' := by
  rw [shown, count_expandTabs, withoutControls, List.count_filter (by decide)]

theorem shown_eq_self_iff (plain : NoColon names) (h : Codes s codes) :
    shown names s = s ↔ (∀ c ∈ unwritten, c ∉ s) ∧ ∀ code ∈ codes, ¬ Known names code := by
  constructor
  · intro same
    constructor
    · intro c hc
      rw [← same]
      exact notMem_shown hc names s
    · apply unknown_of_count_eq plain h
      rw [← count_shown, same]
  · rintro ⟨absent, unknown⟩
    have hcontrols : withoutControls s = s := by
      apply List.filter_eq_self.2
      intro c hc
      rw [Bool.not_eq_true', Bool.eq_false_iff]
      intro hcontrol
      exact absent c (mem_unwritten_iff.2 (.inr hcontrol)) hc
    have htab : '\t' ∉ s := absent '\t' List.mem_cons_self
    rw [shown, replaceEmojis_eq_self h unknown, hcontrols, expandTabs_of_notMem {} htab]

theorem println_eq_iff (names : EmojiNames) (message : String) :
    println names message = message ++ "\n" ↔
      shown names message.toList = message.toList := by
  rw [println, ← String.toList_inj, String.toList_append, String.toList_append,
    String.toList_ofList, List.append_cancel_right_eq]

theorem notMem_println (h : c ∈ unwritten) (names : EmojiNames) (message : String) :
    c ∉ (println names message).toList := by
  have hline : c ≠ '\n' := by
    rintro rfl
    exact absurd h (by decide)
  rw [println, String.toList_append, String.toList_ofList, List.mem_append, not_or]
  exact ⟨notMem_shown h names message.toList, mt List.mem_singleton.1 hline⟩

/-- A message is written as it is, with the end of the line after it, exactly if it has no tab and
no control that is dropped, and none of the codes that its scan meets has a known name.  Whatever
the message is, no tab and no such control is written, and the end of the line is. -/
theorem verbatim_iff (plain : NoColon names) (message : String) :
    ∃ codes, (∀ other, Codes message.toList other ↔ other = codes) ∧
      (println names message = message ++ "\n" ↔
        (∀ c ∈ unwritten, c ∉ message.toList) ∧ ∀ code ∈ codes, ¬ Known names code) ∧
      (∃ written, println names message = written ++ "\n") ∧
      ∀ c ∈ unwritten, c ∉ (println names message).toList := by
  obtain ⟨codes, h⟩ := exists_codes message.toList
  refine ⟨codes, fun other ↦ ⟨fun h' ↦ h'.unique h, fun heq ↦ heq ▸ h⟩, ?_, ⟨_, rfl⟩, ?_⟩
  · rw [println_eq_iff, shown_eq_self_iff plain h]
  · intro c hc
    exact notMem_println hc names message

theorem noColon_emoji : NoColon emoji? := by
  have listed : ∀ entry ∈ emojis, ':' ∉ [entry.2] := by decide
  intro name text h
  obtain ⟨c, hlookup, rfl⟩ := Option.map_eq_some_iff.1 h
  obtain ⟨before, after, hentries, -⟩ := List.lookup_eq_some_iff.1 hlookup
  have hmem : (String.ofList (name.map Text.foldLower), c) ∈ emojis := by
    rw [hentries]
    exact List.mem_append_right before List.mem_cons_self
  exact listed _ hmem

/-- The first colon begins an unknown code, which takes away the one that a known code would begin
with. -/
theorem verbatim_iff_hiddenCode :
    NoColon emoji? ∧ Codes "https://r/:smile:".toList ["//r/".toList] ∧
      println emoji? "https://r/:smile:" = "https://r/:smile:\n" := by
  have hcodes : Codes "https://r/:smile:".toList ["//r/".toList] := by
    have lone : Codes [':'] [] := .unclosed (fun _ _ _ closed ↦ by simp at closed) .nil
    have name : Codes ("smile".toList ++ [':']) [] := lone.append_plain (by decide)
    have code : Codes (':' :: "//r/:smile:".toList) ["//r/".toList] := .code (by decide) rfl name
    exact code.append_plain (p := "https".toList) (by decide)
  obtain ⟨codes, unique, hiff, -⟩ := verbatim_iff noColon_emoji "https://r/:smile:"
  obtain rfl := (unique _).1 hcodes
  have absent : ∀ c ∈ unwritten, c ∉ "https://r/:smile:".toList := by simp [unwritten]
  have unknown : ¬ Known emoji? "//r/".toList := expandCode_eq_none_iff.1 (by decide +kernel)
  refine ⟨noColon_emoji, hcodes, hiff.2 ⟨absent, ?_⟩⟩
  rw [List.forall_mem_singleton]
  exact unknown

/-- After a blank the known code is met. -/
example : println emoji? "https: :smile:" = "https: 😄\n" := by decide +kernel

end TransferReport.Terminal
