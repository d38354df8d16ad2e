import TransferReport.Proofs.Fault
import TransferReport.Proofs.Text.Letters
import TransferReport.SizeUnit

/-!
# The names of units

A text names a unit if the symbol or the long name of the unit stands in it between blanks, letter by
letter but for ASCII case; the Kelvin sign counts as a K.  The search for a unit goes through the
lower case of the trimmed text instead.  Both come to the same for every text, no two units share a
name, and a text that names no unit is refused as it was written.
-/

namespace TransferReport.SizeUnit

open Text

variable {s : String} {unit other : SizeUnit}

/-- The ways to write a unit. -/
def spellings (unit : SizeUnit) : List String :=
  [unit.symbol, unit.name]

/-- The characters are the letters of a spelling, ASCII case aside; the Kelvin sign is a K. -/
def Matches (word : List Char) (spelling : String) : Prop :=
  word.map foldLower = spelling.toList.map foldLower

/-- A text spells a unit between blanks. -/
def Spells (s : String) (unit : SizeUnit) : Prop :=
  ∃ before word after, s.toList = before ++ word ++ after ∧
    (∀ c ∈ before, isBlank c = true) ∧ (∀ c ∈ after, isBlank c = true) ∧
    ∃ spelling ∈ unit.spellings, Matches word spelling

/-- A spelling consists of ASCII letters. -/
theorem isLower_of_mem_spellings (unit : SizeUnit) :
    ∀ spelling ∈ unit.spellings, spelling.toList ≠ [] ∧
      ∀ c ∈ spelling.toList.map foldLower, c.isLower = true := by
  intro spelling hspelling
  have hspellings : ∀ spelling ∈ unit.spellings, spelling.toList ≠ [] ∧
      (spelling.toList.map foldLower).all Char.isLower = true := by
    cases unit <;> decide
  obtain ⟨hne, hlower⟩ := hspellings spelling hspelling
  exact ⟨hne, List.all_eq_true.1 hlower⟩

/-- No two units have a spelling in common. -/
theorem eq_of_mem_spellings : ∀ unit other : SizeUnit, ∀ spelling ∈ unit.spellings,
    ∀ shared ∈ other.spellings, Matches spelling.toList shared → unit = other := by
  unfold Matches
  intro unit other
  cases unit <;> cases other <;> decide

theorem lower_eq_key_iff {word : List Char} {spelling : String} (h : spelling ∈ unit.spellings) :
    lower word = key spelling ↔ Matches word spelling := by
  have hletters := (isLower_of_mem_spellings unit spelling h).2
  have hkey : key spelling = spelling.toList.map foldLower := (lower_eq_iff hletters).2 rfl
  rw [hkey, lower_eq_iff hletters, Matches]

theorem answersTo_lower_iff {word : List Char} :
    unit.answersTo (lower word) = true ↔ ∃ spelling ∈ unit.spellings, Matches word spelling := by
  have hsymbol : lower word = key unit.symbol ↔ Matches word unit.symbol :=
    lower_eq_key_iff List.mem_cons_self
  have hname : lower word = key unit.name ↔ Matches word unit.name :=
    lower_eq_key_iff (List.mem_cons_of_mem _ List.mem_cons_self)
  rw [answersTo, Bool.or_eq_true, decide_eq_true_iff, decide_eq_true_iff, hsymbol, hname, spellings]
  simp

/-- A word that matches a spelling consists of letters. -/
theorem letters_of_matches {word : List Char} {spelling : String} (h : spelling ∈ unit.spellings)
    (hmatches : Matches word spelling) :
    word ≠ [] ∧ ∀ c ∈ word, (foldLower c).isLower = true := by
  obtain ⟨hne, hletters⟩ := isLower_of_mem_spellings unit spelling h
  unfold Matches at hmatches
  rw [← hmatches] at hletters
  constructor
  · rintro rfl
    exact hne (List.map_eq_nil_iff.1 hmatches.symm)
  · exact fun c hc ↦ hletters _ (List.mem_map_of_mem hc)

/-- What a text spells is left of it by trimming. -/
theorem spells_iff :
    Spells s unit ↔ ∃ spelling ∈ unit.spellings, Matches (trim s.toList) spelling := by
  constructor
  · rintro ⟨before, word, after, hs, hbefore, hafter, spelling, hspelling, hmatches⟩
    obtain ⟨hne, hletters⟩ := letters_of_matches hspelling hmatches
    have hword : ∀ c ∈ word, isBlank c = false := fun c hc ↦ isBlank_of_isLower (hletters c hc)
    rw [hs, trim_append hbefore hafter hne hword]
    exact ⟨spelling, hspelling, hmatches⟩
  · intro hspelling
    obtain ⟨before, after, hs, hbefore, hafter⟩ := exists_blanks s.toList
    exact ⟨before, _, after, hs, hbefore, hafter, hspelling⟩

/-- A text spells at most one unit. -/
theorem eq_of_spells (hunit : Spells s unit) (hother : Spells s other) : unit = other := by
  obtain ⟨spelling, hspelling, hmatches⟩ := spells_iff.1 hunit
  obtain ⟨shared, hshared, hsame⟩ := spells_iff.1 hother
  exact eq_of_mem_spellings unit other spelling hspelling shared hshared (hmatches.symm.trans hsame)

/-- A text that spells a unit has blanks and letters only, and is not blank. -/
theorem letters_of_spells (h : Spells s unit) :
    (∀ c ∈ s.toList, isBlank c = true ∨ (foldLower c).isLower = true) ∧
      ∃ c ∈ s.toList, isBlank c = false := by
  obtain ⟨before, word, after, hs, hbefore, hafter, spelling, hspelling, hmatches⟩ := h
  obtain ⟨hne, hletters⟩ := letters_of_matches hspelling hmatches
  rw [hs]
  constructor
  · intro c hc
    rcases List.mem_append.1 hc with hc | hc
    · rcases List.mem_append.1 hc with hc | hc
      · exact .inl (hbefore c hc)
      · exact .inr (hletters c hc)
    · exact .inl (hafter c hc)
  · obtain ⟨c, hc⟩ := List.exists_mem_of_ne_nil word hne
    exact ⟨c, List.mem_append_left _ (List.mem_append_right _ hc), isBlank_of_isLower (hletters c hc)⟩

/-- In whatever order the units are gone through, the one that a text spells is found. -/
theorem find?_eq_some_iff {order : List SizeUnit} (hall : order.Perm all) :
    (order.find? fun unit ↦ unit.answersTo (lower (trim s.toList))) = some unit ↔ Spells s unit := by
  have hfound {found : SizeUnit}
      (hfind : (order.find? fun unit ↦ unit.answersTo (lower (trim s.toList))) = some found) :
      Spells s found := by
    have hanswers := List.find?_some hfind
    exact spells_iff.2 (answersTo_lower_iff.1 hanswers)
  refine ⟨hfound, fun hspells ↦ ?_⟩
  cases hfind : order.find? fun unit ↦ unit.answersTo (lower (trim s.toList)) with
  | none =>
    have hmem : unit ∈ order := hall.mem_iff.2 (mem_all unit)
    exact absurd (answersTo_lower_iff.2 (spells_iff.1 hspells)) (List.find?_eq_none.1 hfind unit hmem)
  | some found => rw [eq_of_spells (hfound hfind) hspells]

theorem named?_eq_some_iff : named? s = some unit ↔ Spells s unit :=
  find?_eq_some_iff (List.Perm.refl all)

/-- A text is taken for a unit exactly if it spells it, in whatever order the units are searched,
and it spells at most one.  Any other text is refused in a message that quotes it untrimmed; among
these are the blank texts and all texts with a capital I with a dot. -/
theorem named_eq_ok_iff_spells (s : String) :
    (∀ unit, named s = .ok unit ↔ Spells s unit) ∧
    (∀ unit other, Spells s unit → Spells s other → unit = other) ∧
    (∀ order : List SizeUnit, order.Perm all →
      (order.find? fun unit ↦ unit.answersTo (lower (trim s.toList))) = named? s) ∧
    ((∀ unit, ¬ Spells s unit) → ∃ fault, named s = .error fault ∧
      fault.errorClass = .invalidArgument ∧
      fault.message = "`" ++ s ++ "` not in ['B', 'kB', 'MB', 'GB']") ∧
    ((∀ c ∈ s.toList, isBlank c = true) ∨ Char.ofNat 0x130 ∈ s.toList →
      ∀ unit, ¬ Spells s unit) := by
  refine ⟨fun unit ↦ ?_, fun _ _ ↦ eq_of_spells, fun order hall ↦ ?_, fun hnone ↦ ?_,
    fun hother unit hspells ↦ ?_⟩
  · rw [← named?_eq_some_iff, named]
    cases named? s with
    | none => simp
    | some found => simp
  · apply Option.ext
    intro unit
    rw [find?_eq_some_iff hall, named?_eq_some_iff]
  · have hunknown : named? s = none :=
      Option.eq_none_iff_forall_ne_some.2 fun unit hunit ↦ hnone unit (named?_eq_some_iff.1 hunit)
    refine ⟨.unknownUnit s, ?_, rfl, rfl⟩
    rw [named, hunknown]
  · obtain ⟨hletters, c, hc, hsolid⟩ := letters_of_spells hspells
    rcases hother with hblank | hdotted
    · rw [hblank c hc] at hsolid
      cases hsolid
    · exact absurd (hletters _ hdotted) (by decide)

/-- The Kelvin sign in a long name, between an em space and a line break, and a dotted capital I. -/
theorem named_eq_ok_iff_spells_kelvin :
    Spells "\u2003\u212AiloBYTE\n" .kilobyte ∧ named "\u2003\u212AiloBYTE\n" = .ok .kilobyte ∧
      Char.ofNat 0x130 ∈ "K\u0130LOBYTE".toList ∧ (∀ unit, ¬ Spells "K\u0130LOBYTE" unit) ∧
      ∃ fault, named "K\u0130LOBYTE" = .error fault ∧ fault.errorClass = .invalidArgument ∧
        fault.message = "`" ++ "K\u0130LOBYTE" ++ "` not in ['B', 'kB', 'MB', 'GB']" := by
  have hbefore : "\u2003".toList.all isBlank = true := by decide
  have hafter : "\n".toList.all isBlank = true := by decide
  have hkelvin : Spells "\u2003\u212AiloBYTE\n" .kilobyte :=
    ⟨"\u2003".toList, "\u212AiloBYTE".toList, "\n".toList, by decide, List.all_eq_true.1 hbefore,
      List.all_eq_true.1 hafter, "KILOBYTE", by decide, by unfold Matches; decide⟩
  have hdotted : Char.ofNat 0x130 ∈ "K\u0130LOBYTE".toList := by decide
  have hnone := (named_eq_ok_iff_spells "K\u0130LOBYTE").2.2.2.2 (.inr hdotted)
  exact ⟨hkelvin, ((named_eq_ok_iff_spells _).1 .kilobyte).2 hkelvin, hdotted, hnone,
    (named_eq_ok_iff_spells "K\u0130LOBYTE").2.2.2.1 hnone⟩

end TransferReport.SizeUnit
