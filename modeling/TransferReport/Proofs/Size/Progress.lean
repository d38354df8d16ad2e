import TransferReport.Proofs.Size.Faults

/-!
# The text of progress

While a transfer runs, the part and the whole stand on the two sides of a slash, both in the unit of
the whole, whose symbol is written once at the end.  Each number has its own pattern, with a decimal
place or without one, but in one unit the shown numbers keep the order of the sizes across all
patterns.  So the part that is shown never falls, and it never exceeds the whole that is shown.
-/

namespace TransferReport.SizeFormat

variable {f : SizeFormat} {part total : ℤ}

theorem slash_mem_pair (number whole : String) : '/' ∈ (number ++ "/" ++ whole).toList := by
  simp

theorem slash_notMem_symbol (unit : SizeUnit) : '/' ∉ (" " ++ unit.symbol).toList := by
  cases unit <;> decide

/-- A size shown alone has no slash. -/
theorem slash_notMem_format (hmark : f.mark ≠ '/') {text : String}
    (hformat : f.format part = .ok text) : '/' ∉ text.toList := by
  obtain ⟨hlow, hshow⟩ := (exists_formatIn_iff f true).1 ⟨text, hformat⟩
  rw [format, formatIn_of_showable f hlow hshow, if_pos rfl] at hformat
  rw [← Except.ok.inj hformat, String.toList_append, List.mem_append, not_or]
  exact ⟨notMem_numberText (by decide) hmark _ _, slash_notMem_symbol _⟩

/-- What has been transferred is shown beside a known whole that is not reached, and else alone. -/
theorem slash_mem_progress_iff (hmark : f.mark ≠ '/') {text : String}
    (hprogress : f.progress part total = .ok text) :
    '/' ∈ text.toList ↔ 0 ≤ total ∧ part ≠ total := by
  have hlow : 0 ≤ part := by
    by_contra hneg
    rw [progress_of_neg f (not_le.1 hneg)] at hprogress
    cases hprogress
  by_cases halone : total < 0 ∨ part = total
  · rw [progress_of_alone f hlow halone] at hprogress
    apply iff_of_false (slash_notMem_format hmark hprogress)
    omega
  · have hlt : part < total := by
      by_contra hbeyond
      rw [progress_of_beyond f hlow (by omega) (by omega)] at hprogress
      cases hprogress
    have hshow : Showable total.toNat (SizeUnit.forSize total.toNat) :=
      ((exists_formatIn_iff f true).1 ((exists_progress_iff_of_lt hlow hlt).1 ⟨text, hprogress⟩)).2
    rw [progress_of_showable f hlow hlt hshow] at hprogress
    rw [← Except.ok.inj hprogress]
    apply iff_of_true (slash_mem_pair _ _)
    omega

/-- The number that is shown of a size in a unit. -/
def shownNumber (size : ℕ) (unit : SizeUnit) : ℚ :=
  shownTenths size unit / 10

theorem shownNumber_mono {size larger : ℕ} (h : size ≤ larger) (unit : SizeUnit) :
    shownNumber size unit ≤ shownNumber larger unit := by
  unfold shownNumber
  gcongr
  exact shownTenths_mono h unit

/-- With a mark that is no digit the numbers of the parts and of the whole are read as they were
shown, so they keep the order of the sizes. -/
theorem exists_ordered_progress (hdigit : f.mark.isDigit = false) {part more total : ℤ}
    (hpart : 0 ≤ part) (hmore : part ≤ more) (htotal : more < total) {later : String}
    (hlater : f.progress more total = .ok later) :
    ∃ unit, SizeUnit.select total = .ok unit ∧
      ∃ partText moreText totalText,
        f.progress part total = .ok (partText ++ "/" ++ (totalText ++ (" " ++ unit.symbol))) ∧
        later = moreText ++ "/" ++ (totalText ++ (" " ++ unit.symbol)) ∧
        f.format total = .ok (totalText ++ (" " ++ unit.symbol)) ∧
        f.formatIn part unit false = .ok partText ∧
        f.formatIn more unit false = .ok moreText ∧
        ∃ shownPart shownMore shownTotal,
          number? f.mark partText.toList = some shownPart ∧
          number? f.mark moreText.toList = some shownMore ∧
          number? f.mark totalText.toList = some shownTotal ∧
          shownPart ≤ shownMore ∧ shownMore ≤ shownTotal := by
  have hlow : 0 ≤ more := hpart.trans hmore
  have hformat := (exists_progress_iff_of_lt hlow htotal).1 ⟨later, hlater⟩
  obtain ⟨hknown, hshow⟩ := (exists_formatIn_iff f true).1 hformat
  have hread (size : ℕ) (unit : SizeUnit) :
      number? f.mark (numberText f.mark size unit).toList = some (shownNumber size unit) :=
    number?_numberText hdigit
  have hnumber {count : ℤ} (hcount : 0 ≤ count) (hle : count ≤ total) :
      f.formatIn count (SizeUnit.forSize total.toNat) false =
        .ok (numberText f.mark count.toNat (SizeUnit.forSize total.toNat)) := by
    have hcountShow := showable_mono (Int.toNat_le_toNat hle) hshow
    have hcut := formatIn_of_showable f hcount hcountShow false
    rwa [if_neg Bool.false_ne_true, String.append_empty] at hcut
  rw [progress_of_showable f hlow htotal hshow] at hlater
  refine ⟨SizeUnit.forSize total.toNat, ?_, _, _, _,
    progress_of_showable f hpart (hmore.trans_lt htotal) hshow, (Except.ok.inj hlater).symm,
    formatIn_of_showable f hknown hshow true, hnumber hpart (hmore.trans htotal.le),
    hnumber hlow htotal.le, _, _, _, hread _ _, hread _ _, hread _ _, ?_, ?_⟩
  · rw [SizeUnit.select, if_neg hknown.not_gt]
  · exact shownNumber_mono (Int.toNat_le_toNat hmore) _
  · exact shownNumber_mono (Int.toNat_le_toNat htotal.le) _

/-- In the format of every locale, beside one whole, a smaller part can be shown whenever a larger
one can.  The two texts differ in nothing but the number before the slash, which is written without a
symbol; what follows the slash is the text of the whole alone.  The number of the larger part is no
smaller than that of the other one and no larger than that of the whole.  A text of progress has a
slash exactly if the whole is known and not reached. -/
theorem progress_ordered {value : Value} {f : SizeFormat} (hf : ofValue value = .ok f) :
    (∀ part more total : ℤ, 0 ≤ part → part ≤ more → more < total →
      ∀ later, f.progress more total = .ok later →
        ∃ unit, SizeUnit.select total = .ok unit ∧
          ∃ partText moreText totalText,
            f.progress part total = .ok (partText ++ "/" ++ (totalText ++ (" " ++ unit.symbol))) ∧
            later = moreText ++ "/" ++ (totalText ++ (" " ++ unit.symbol)) ∧
            f.format total = .ok (totalText ++ (" " ++ unit.symbol)) ∧
            f.formatIn part unit false = .ok partText ∧
            f.formatIn more unit false = .ok moreText ∧
            ∃ shownPart shownMore shownTotal,
              number? f.mark partText.toList = some shownPart ∧
              number? f.mark moreText.toList = some shownMore ∧
              number? f.mark totalText.toList = some shownTotal ∧
              shownPart ≤ shownMore ∧ shownMore ≤ shownTotal) ∧
    ∀ part total text, f.progress part total = .ok text →
      ('/' ∈ text.toList ↔ 0 ≤ total ∧ part ≠ total) := by
  obtain ⟨hdigit, -⟩ := mark_of_ofValue hf
  have hslash : f.mark ≠ '/' :=
    forall_mark (P := fun mark ↦ mark ≠ '/') hf (by decide) (by decide) (by decide)
  constructor
  · intro part more total hpart hmore htotal later hlater
    exact exists_ordered_progress hdigit hpart hmore htotal hlater
  · intro part total text hprogress
    exact slash_mem_progress_iff hslash hprogress

/-- Of ten kilobytes, forty bytes are shown as nothing and all but one byte with a decimal. -/
theorem progress_ordered_tenKilobytes :
    ofValue (.text "en") = .ok ⟨.english⟩ ∧ (0 : ℤ) ≤ 40 ∧ (40 : ℤ) ≤ 9999 ∧ (9999 : ℤ) < 10000 ∧
      SizeFormat.progress ⟨.english⟩ 9999 10000 = .ok "10.0/10 kB" ∧
      ('/' ∈ "10.0/10 kB".toList ↔ (0 : ℤ) ≤ 10000 ∧ (9999 : ℤ) ≠ 10000) ∧
      ∃ unit, SizeUnit.select 10000 = .ok unit ∧
        ∃ partText moreText totalText,
          SizeFormat.progress ⟨.english⟩ 40 10000 =
            .ok (partText ++ "/" ++ (totalText ++ (" " ++ unit.symbol))) ∧
          "10.0/10 kB" = moreText ++ "/" ++ (totalText ++ (" " ++ unit.symbol)) ∧
          ∃ shownPart shownMore shownTotal,
            number? '.' partText.toList = some shownPart ∧
            number? '.' moreText.toList = some shownMore ∧
            number? '.' totalText.toList = some shownTotal ∧
            shownPart ≤ shownMore ∧ shownMore ≤ shownTotal := by
  have hf : ofValue (.text "en") = .ok ⟨.english⟩ := rfl
  have hprogress : SizeFormat.progress ⟨.english⟩ 9999 10000 = .ok "10.0/10 kB" := by
    have hunit : SizeUnit.forSize (10000 : ℤ).toNat = .kilobyte := by decide
    have hshow : Showable (10000 : ℤ).toNat (SizeUnit.forSize (10000 : ℤ).toNat) :=
      showable_of_le_bytes (show (10000 : ℤ).toNat ≤ SizeUnit.megabyte.bytes by decide)
    have htext : numberText '.' 9999 .kilobyte ++ "/" ++ (numberText '.' 10000 .kilobyte ++
        (" " ++ SizeUnit.kilobyte.symbol)) = "10.0/10 kB" := by
      decide +kernel
    rw [progress_of_showable ⟨.english⟩ (by decide) (by decide) hshow, hunit]
    exact congrArg Except.ok htext
  obtain ⟨hordered, hslash⟩ := progress_ordered hf
  obtain ⟨unit, hunit, partText, moreText, totalText, hpart, hmore, -, -, -, hnumbers⟩ :=
    hordered 40 9999 10000 (by decide) (by decide) (by decide) _ hprogress
  exact ⟨hf, by decide, by decide, by decide, hprogress, hslash 9999 10000 _ hprogress, unit, hunit,
    partText, moreText, totalText, hpart, hmore, hnumbers⟩

end TransferReport.SizeFormat
