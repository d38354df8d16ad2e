import Mathlib.Data.List.TakeWhile
import TransferReport.Text.Blank
import TransferReport.Text.Case.Basic

/-!
# Words of ASCII letters

What the lower case of Unicode means for a word of small ASCII letters.  Every character has a lower
case of at least one character, and beside the ASCII letters the Kelvin sign alone has one made of
small ASCII letters: the capital I with a dot keeps its dot, and all other capitals stay beyond
ASCII.  So a text has such a word as its lower case exactly if it is that word letter by letter,
whatever goes before it or behind it.  No blank is such a letter, so trimming finds a word again
that stands between blanks.
-/

namespace TransferReport.Text

theorem isLower_iff {c : Char} : c.isLower = true ↔ 0x61 ≤ c.toNat ∧ c.toNat ≤ 0x7A := by
  have hcodes : c.isLower = (decide (c.val ≥ 'a'.val) && decide (c.val ≤ 'z'.val)) := rfl
  rw [hcodes, Bool.and_eq_true, decide_eq_true_iff, decide_eq_true_iff, ge_iff_le,
    UInt32.le_iff_toNat_le, UInt32.le_iff_toNat_le]
  rfl

theorem not_isLower_of_le {c : Char} (h : 0x80 ≤ c.toNat) : ¬ c.isLower = true := by
  rw [isLower_iff]
  omega

/-- A code point beyond ASCII gives no small letter, be it valid or not. -/
theorem not_isLower_ofNat {n : ℕ} (h : 0x80 ≤ n) : ¬ (Char.ofNat n).isLower = true := by
  by_cases hvalid : n.isValidChar
  · rw [Char.ofNat, dif_pos hvalid]
    exact not_isLower_of_le h
  · rw [Char.ofNat, dif_neg hvalid]
    decide

theorem toLower_of_le {c : Char} (h : 0x80 ≤ c.toNat) : c.toLower = c := by
  have hbeyond : ¬ (c.val ≥ 'A'.val ∧ c.val ≤ 'Z'.val) := by
    rw [ge_iff_le, UInt32.le_iff_toNat_le, UInt32.le_iff_toNat_le, Char.toNat_val]
    rintro ⟨-, hle⟩
    exact absurd (Nat.le_trans h hle) (by decide)
  exact dif_neg hbeyond

theorem foldLower_of_le {c : Char} (h : 0x80 ≤ c.toNat) (hkelvin : c.toNat ≠ 0x212A) :
    foldLower c = c := by
  rw [foldLower, if_neg hkelvin, toLower_of_le h]

/-- The one run of capitals that leads back to ASCII holds the Kelvin sign alone. -/
theorem lowerRuns_beyond_ascii :
    ∀ run ∈ lowerRuns, run.first = 0x212A ∧ run.last = 0x212A ∨ 0x80 ≤ run.first + run.offset := by
  decide +kernel

theorem counterpart?_beyond_ascii {c d : Char} (hkelvin : c.toNat ≠ 0x212A)
    (h : CaseRun.counterpart? lowerRuns c = some d) : ¬ d.isLower = true := by
  obtain ⟨run, hfind, rfl⟩ := Option.map_eq_some_iff.1 h
  have hholds := List.find?_some hfind
  rw [CaseRun.contains, Bool.and_eq_true, Bool.and_eq_true, decide_eq_true_iff,
    decide_eq_true_iff] at hholds
  obtain ⟨⟨hfirst, hlast⟩, -⟩ := hholds
  apply not_isLower_ofNat
  rcases lowerRuns_beyond_ascii run (List.mem_of_find?_eq_some hfind) with ⟨hf, hl⟩ | hbeyond
  · exact absurd (by omega) hkelvin
  · omega

/-- In its surroundings a character has its folded form as its lower case, unless neither of them is
made of small ASCII letters. -/
theorem lowerWithin_cases (before : Bool) (c : Char) (rest : List Char) :
    lowerWithin before c rest = [foldLower c] ∨
      ¬ (foldLower c).isLower = true ∧ ∃ d ∈ lowerWithin before c rest, ¬ d.isLower = true := by
  by_cases hsigma : c.toNat = 0x3A3
  · right
    rw [foldLower_of_le (by omega) (by omega), lowerWithin, if_pos hsigma]
    refine ⟨not_isLower_of_le (by omega), _, List.mem_singleton_self _, ?_⟩
    apply not_isLower_ofNat
    split <;> decide
  rw [lowerWithin, if_neg hsigma]
  by_cases hascii : c.toNat < 0x80
  · left
    rw [lowerChar, if_pos hascii, foldLower, if_neg (by omega)]
  rw [lowerChar, if_neg hascii]
  rw [Nat.not_lt] at hascii
  by_cases hdotted : c.toNat = 0x130
  · right
    rw [foldLower_of_le hascii (by omega), if_pos hdotted]
    exact ⟨not_isLower_of_le hascii, Char.ofNat 0x307, by simp, by decide⟩
  rw [if_neg hdotted]
  by_cases hkelvin : c.toNat = 0x212A
  · left
    have hcounterpart : CaseRun.counterpart? lowerRuns (Char.ofNat 0x212A) = some 'k' := by
      decide +kernel
    obtain rfl : c = Char.ofNat 0x212A := Char.toNat_inj.1 hkelvin
    rw [hcounterpart, foldLower, if_pos hkelvin]
    rfl
  · right
    rw [foldLower_of_le hascii hkelvin]
    refine ⟨not_isLower_of_le hascii, _, List.mem_singleton_self _, ?_⟩
    cases hcounterpart : CaseRun.counterpart? lowerRuns c with
    | none => exact not_isLower_of_le hascii
    | some d => exact counterpart?_beyond_ascii hkelvin hcounterpart

theorem lowerFrom_eq_iff (before : Bool) {s word : List Char}
    (hword : ∀ d ∈ word, d.isLower = true) :
    lowerFrom before s = word ↔ s.map foldLower = word := by
  induction s generalizing before word with
  | nil => rfl
  | cons c s ih =>
    rw [lowerFrom, List.map_cons]
    rcases lowerWithin_cases before c s with hfold | ⟨hfold, d, hd, hother⟩
    · rw [hfold, List.singleton_append]
      cases word with
      | nil => simp
      | cons first word =>
        rw [List.forall_mem_cons] at hword
        rw [List.cons.injEq, List.cons.injEq, ih _ hword.2]
    · -- on both sides a character is left over that is in no word of small letters
      apply iff_of_false
      · rintro rfl
        exact hother (hword d (List.mem_append_left _ hd))
      · rintro rfl
        exact hfold (hword _ List.mem_cons_self)

/-- A text has a word of small ASCII letters as its lower case exactly if each of its characters is
the letter in its place. -/
theorem lower_eq_iff {s word : List Char} (hword : ∀ d ∈ word, d.isLower = true) :
    lower s = word ↔ s.map foldLower = word :=
  lowerFrom_eq_iff false hword

/-- What is folded to a small letter is no blank. -/
theorem isBlank_of_isLower {c : Char} (h : (foldLower c).isLower = true) : isBlank c = false := by
  have hascii : ∀ n < 0x80, (foldLower (Char.ofNat n)).isLower = true →
      isBlank (Char.ofNat n) = false := by decide
  have hkelvin : isBlank (Char.ofNat 0x212A) = false := by decide
  rw [← Char.ofNat_toNat c] at h ⊢
  rcases Nat.lt_or_ge c.toNat 0x80 with hlow | hhigh
  · exact hascii _ hlow h
  · by_cases hk : c.toNat = 0x212A
    · rw [hk]
      exact hkelvin
    · rw [Char.ofNat_toNat, foldLower_of_le hhigh hk] at h
      exact absurd h (not_isLower_of_le hhigh)

theorem dropWhile_append_blanks {blanks word : List Char}
    (hblanks : ∀ c ∈ blanks, isBlank c = true) (hne : word ≠ [])
    (hword : ∀ c ∈ word, isBlank c = false) (rest : List Char) :
    (blanks ++ (word ++ rest)).dropWhile isBlank = word ++ rest := by
  obtain ⟨c, word, rfl⟩ := List.exists_cons_of_ne_nil hne
  rw [List.dropWhile_append_of_pos hblanks, List.cons_append, List.dropWhile_cons_of_neg]
  rw [hword c List.mem_cons_self]
  exact Bool.false_ne_true

/-- A word between blanks is what trimming leaves. -/
theorem trim_append {before word after : List Char} (hbefore : ∀ c ∈ before, isBlank c = true)
    (hafter : ∀ c ∈ after, isBlank c = true) (hne : word ≠ [])
    (hword : ∀ c ∈ word, isBlank c = false) : trim (before ++ word ++ after) = word := by
  have hend := dropWhile_append_blanks (fun c hc ↦ hafter c (List.mem_reverse.1 hc))
    (List.reverse_ne_nil_iff.2 hne) (fun c hc ↦ hword c (List.mem_reverse.1 hc)) []
  rw [List.append_nil] at hend
  rw [trim, trimEnd, List.append_assoc, dropWhile_append_blanks hbefore hne hword,
    List.reverse_append, hend, List.reverse_reverse]

/-- A text is what trimming leaves of it, between blanks. -/
theorem exists_blanks (s : List Char) :
    ∃ before after, s = before ++ trim s ++ after ∧ (∀ c ∈ before, isBlank c = true) ∧
      ∀ c ∈ after, isBlank c = true := by
  refine ⟨s.takeWhile isBlank, ((s.dropWhile isBlank).reverse.takeWhile isBlank).reverse, ?_,
    fun c hc ↦ List.mem_takeWhile_imp hc,
    fun c hc ↦ List.mem_takeWhile_imp (List.mem_reverse.1 hc)⟩
  rw [trim, trimEnd, List.append_assoc, ← List.reverse_append, List.takeWhile_append_dropWhile,
    List.reverse_reverse, List.takeWhile_append_dropWhile]

end TransferReport.Text
