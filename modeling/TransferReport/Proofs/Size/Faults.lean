import TransferReport.Proofs.Size.Quantity

/-!
# Faults of the formatter

The formatter refuses an argument only for its sign or its order, before any number is made of it.
What is left are the two faults of numbers, and which one it is depends on the double of the
quotient alone.  Progress fails on the number of the whole or not at all: where the whole can be
shown in its unit, so can every part of it.
-/

namespace TransferReport.SizeFormat

open Number

variable {f : SizeFormat} {size : ℤ} {unit : SizeUnit} {symbol : Bool}

theorem errorClass_numberFault (count : ℕ) (unit : SizeUnit) :
    (numberFault count unit).errorClass = .overflow ∨
      (numberFault count unit).errorClass = .invalidOperation := by
  unfold numberFault
  split
  · exact .inl rfl
  · exact .inr rfl

/-- Only a negative size meets a fault that is no fault of numbers. -/
theorem exists_formatIn_error_iff {kind : ErrorClass} (hoverflow : kind ≠ .overflow)
    (hdigits : kind ≠ .invalidOperation) :
    (∃ fault, f.formatIn size unit symbol = .error fault ∧ fault.errorClass = kind) ↔
      size < 0 ∧ Fault.refusalClass size = kind := by
  rw [← Fault.errorClass_negativeSize]
  constructor
  · rintro ⟨fault, hformat, hkind⟩
    by_cases hneg : size < 0
    · rw [formatIn_of_neg f hneg] at hformat
      rw [Except.error.inj hformat]
      exact ⟨hneg, hkind⟩
    · rw [not_lt] at hneg
      by_cases hshow : Showable size.toNat unit
      · rw [formatIn_of_showable f hneg hshow] at hformat
        cases hformat
      · rw [formatIn_of_not_showable f hneg hshow] at hformat
        obtain rfl := Except.error.inj hformat
        rcases errorClass_numberFault size.toNat unit with h | h
        · exact absurd (hkind.symm.trans h) hoverflow
        · exact absurd (hkind.symm.trans h) hdigits
  · rintro ⟨hneg, hkind⟩
    exact ⟨_, formatIn_of_neg f hneg unit symbol, hkind⟩

/-! ## Progress -/

variable {progressed total : ℤ}

theorem progress_of_neg (f : SizeFormat) (h : progressed < 0) (total : ℤ) :
    f.progress progressed total = .error (Fault.negativeProgress progressed).raised := by
  rw [progress, if_pos h]

theorem progress_of_beyond (f : SizeFormat) (hlow : 0 ≤ progressed) (htotal : 0 ≤ total)
    (h : total < progressed) :
    f.progress progressed total = .error (Fault.progressBeyondTotal progressed total).raised := by
  rw [progress, if_neg hlow.not_gt, if_pos (by simp [htotal, h])]

/-- When the whole is unknown or reached, the part is shown alone. -/
theorem progress_of_alone (f : SizeFormat) (hlow : 0 ≤ progressed)
    (h : total < 0 ∨ progressed = total) : f.progress progressed total = f.format progressed := by
  rw [progress, if_neg hlow.not_gt]
  rcases h with hunknown | rfl
  · rw [if_neg (by simp [hunknown.not_ge]), if_neg (by simp [hunknown.not_ge])]
  · rw [if_neg (by simp), if_neg (by simp)]

theorem progress_of_lt (f : SizeFormat) (hlow : 0 ≤ progressed) (h : progressed < total) :
    f.progress progressed total = (do
      let part ← f.formatIn progressed (SizeUnit.forSize total.toNat) false
      let whole ← f.format total
      pure (part ++ "/" ++ whole)) := by
  have htotal : 0 ≤ total := hlow.trans h.le
  rw [progress, if_neg hlow.not_gt, if_neg (by simp [h.le]), if_pos (by simp [htotal, h.ne])]
  rfl

/-- A part is shown beside every whole that can be shown. -/
theorem progress_of_showable (f : SizeFormat) (hlow : 0 ≤ progressed) (h : progressed < total)
    (hshow : Showable total.toNat (SizeUnit.forSize total.toNat)) :
    f.progress progressed total =
      .ok (numberText f.mark progressed.toNat (SizeUnit.forSize total.toNat) ++ "/" ++
        (numberText f.mark total.toNat (SizeUnit.forSize total.toNat) ++
          (" " ++ (SizeUnit.forSize total.toNat).symbol))) := by
  have hpart := showable_mono (Int.toNat_le_toNat h.le) hshow
  rw [progress_of_lt f hlow h, formatIn_of_showable f hlow hpart, format,
    formatIn_of_showable f (hlow.trans h.le) hshow, if_neg Bool.false_ne_true, if_pos rfl,
    String.append_empty]
  rfl

/-- Beside a whole that cannot be shown progress fails, with a fault of numbers. -/
theorem progress_of_not_showable (f : SizeFormat) (hlow : 0 ≤ progressed) (h : progressed < total)
    (hshow : ¬ Showable total.toNat (SizeUnit.forSize total.toNat)) :
    ∃ count, f.progress progressed total =
      .error (numberFault count (SizeUnit.forSize total.toNat)) := by
  by_cases hpart : Showable progressed.toNat (SizeUnit.forSize total.toNat)
  · refine ⟨total.toNat, ?_⟩
    rw [progress_of_lt f hlow h, formatIn_of_showable f hlow hpart, format,
      formatIn_of_not_showable f (hlow.trans h.le) hshow]
    rfl
  · refine ⟨progressed.toNat, ?_⟩
    rw [progress_of_lt f hlow h, formatIn_of_not_showable f hlow hpart]
    rfl

theorem exists_progress_iff_of_lt (hlow : 0 ≤ progressed) (h : progressed < total) :
    (∃ text, f.progress progressed total = .ok text) ↔ ∃ text, f.format total = .ok text := by
  rw [show (∃ text, f.format total = .ok text) ↔ _ from exists_formatIn_iff f true,
    and_iff_right (hlow.trans h.le)]
  constructor
  · rintro ⟨text, htext⟩
    by_contra hshow
    obtain ⟨count, hfault⟩ := progress_of_not_showable f hlow h hshow
    rw [hfault] at htext
    cases htext
  · intro hshow
    exact ⟨_, progress_of_showable f hlow h hshow⟩

/-- Only a negative part, or one beyond a known whole, meets a fault that is no fault of numbers. -/
theorem exists_progress_error_iff {kind : ErrorClass} (hoverflow : kind ≠ .overflow)
    (hdigits : kind ≠ .invalidOperation) :
    (∃ fault, f.progress progressed total = .error fault ∧ fault.errorClass = kind) ↔
      (progressed < 0 ∨ 0 ≤ total ∧ total < progressed) ∧
        Fault.refusalClass progressed = kind := by
  by_cases hneg : progressed < 0
  · have hrefused := progress_of_neg f hneg total
    simp [hrefused, hneg, Fault.errorClass_negativeProgress]
  rw [not_lt] at hneg
  by_cases hbeyond : 0 ≤ total ∧ total < progressed
  · have hrefused := progress_of_beyond f hneg hbeyond.1 hbeyond.2
    simp [hrefused, hbeyond, Fault.errorClass_progressBeyondTotal hbeyond.1 hbeyond.2]
  refine iff_of_false ?_ fun refused ↦ refused.1.elim hneg.not_gt hbeyond
  rintro ⟨fault, hprogress, hkind⟩
  by_cases hlt : progressed < total
  · by_cases hshow : Showable total.toNat (SizeUnit.forSize total.toNat)
    · rw [progress_of_showable f hneg hlt hshow] at hprogress
      cases hprogress
    · obtain ⟨count, hfault⟩ := progress_of_not_showable f hneg hlt hshow
      obtain rfl := Except.error.inj (hfault.symm.trans hprogress)
      rcases errorClass_numberFault count (SizeUnit.forSize total.toNat) with h | h
      · exact hoverflow (hkind.symm.trans h)
      · exact hdigits (hkind.symm.trans h)
  · rw [progress_of_alone f hneg (by omega)] at hprogress
    have hformat := (exists_formatIn_error_iff hoverflow hdigits).1 ⟨fault, hprogress, hkind⟩
    exact hneg.not_gt hformat.1

/-- A size is refused exactly if it is negative, and the part of a progress if it is negative, which
is found first, or more than a known whole.  The refusal quotes what it refuses, so it is the fault
of an invalid argument as long as that can be written, and a plain error of values for integers of
more digits.  Any other size is shown exactly if its number has at most 28 digits, and fails else
for its quotient or for its digits; any other progress is shown exactly if the whole is, and the
part where it stands alone. -/
theorem faults_classified (f : SizeFormat) :
    (∀ size unit symbol,
      ((∃ fault, f.formatIn size unit symbol = .error fault ∧
        fault.errorClass = .invalidArgument) ↔ size < 0 ∧ Text.isWritable size) ∧
      ((∃ fault, f.formatIn size unit symbol = .error fault ∧ fault.errorClass = .value) ↔
        size < 0 ∧ ¬ Text.isWritable size) ∧
      (size < 0 → f.formatIn size unit symbol = .error (Fault.negativeSize size).raised) ∧
      (0 ≤ size →
        ((∃ text, f.formatIn size unit symbol = .ok text) ↔ Showable size.toNat unit) ∧
        (¬ Showable size.toNat unit →
          f.formatIn size unit symbol = .error (numberFault size.toNat unit)))) ∧
    (∀ size, f.format size = f.formatIn size (SizeUnit.forSize size.toNat) true ∧
      (size < 0 → SizeUnit.select size = .error (Fault.negativeSize size).raised) ∧
      (0 ≤ size → SizeUnit.select size = .ok (SizeUnit.forSize size.toNat))) ∧
    (∀ progressed total,
      ((∃ fault, f.progress progressed total = .error fault ∧
        fault.errorClass = .invalidArgument) ↔
          (progressed < 0 ∨ 0 ≤ total ∧ total < progressed) ∧ Text.isWritable progressed) ∧
      ((∃ fault, f.progress progressed total = .error fault ∧ fault.errorClass = .value) ↔
        (progressed < 0 ∨ 0 ≤ total ∧ total < progressed) ∧ ¬ Text.isWritable progressed) ∧
      (progressed < 0 →
        f.progress progressed total = .error (Fault.negativeProgress progressed).raised) ∧
      (0 ≤ total → total < progressed → f.progress progressed total =
        .error (Fault.progressBeyondTotal progressed total).raised) ∧
      (0 ≤ progressed → progressed < total →
        ((∃ text, f.progress progressed total = .ok text) ↔ ∃ text, f.format total = .ok text)) ∧
      (0 ≤ progressed → total < 0 ∨ progressed = total →
        ((∃ text, f.progress progressed total = .ok text) ↔
          ∃ text, f.format progressed = .ok text))) ∧
    ∀ n, Text.isWritable n ↔ n.natAbs < 10 ^ Text.digitLimit := by
  refine ⟨fun size unit symbol ↦ ⟨?_, ?_, fun h ↦ formatIn_of_neg f h unit symbol,
    fun hlow ↦ ⟨?_, fun hshow ↦ formatIn_of_not_showable f hlow hshow symbol⟩⟩,
    fun size ↦ ⟨rfl, fun hneg ↦ ?_, fun hlow ↦ ?_⟩,
    fun progressed total ↦ ⟨?_, ?_, fun h ↦ progress_of_neg f h total, fun htotal h ↦ ?_,
      exists_progress_iff_of_lt, fun hlow h ↦ ?_⟩, fun _ ↦ Text.isWritable_iff⟩
  · rw [exists_formatIn_error_iff (by decide) (by decide),
      Fault.refusalClass_eq_invalidArgument_iff]
  · rw [exists_formatIn_error_iff (by decide) (by decide), Fault.refusalClass_eq_value_iff]
  · rw [exists_formatIn_iff, and_iff_right hlow]
  · rw [SizeUnit.select, if_pos hneg]
  · rw [SizeUnit.select, if_neg hlow.not_gt]
  · rw [exists_progress_error_iff (by decide) (by decide),
      Fault.refusalClass_eq_invalidArgument_iff]
  · rw [exists_progress_error_iff (by decide) (by decide), Fault.refusalClass_eq_value_iff]
  · exact progress_of_beyond f (htotal.trans h.le) htotal h
  · rw [progress_of_alone f hlow h]

/-- A negative size, the first one with too many digits, a negative part of an unknown whole, a part
beyond the whole, a part of a whole that cannot be shown, and a part alone. -/
theorem faults_classified_limits :
    (∃ fault, SizeFormat.formatIn ⟨.english⟩ (-1) .byte true = .error fault ∧
      fault.errorClass = .invalidArgument) ∧
    SizeFormat.formatIn ⟨.english⟩ (-1) .byte true = .error (.negativeSize (-1)) ∧
    ¬ Showable (10 ^ 28) .byte ∧
    SizeFormat.formatIn ⟨.english⟩ (10 ^ 28 : ℕ) .byte true = .error .tooManyDigits ∧
    SizeUnit.select (10 ^ 28 : ℕ) = .ok (SizeUnit.forSize (10 ^ 28)) ∧
    SizeFormat.progress ⟨.english⟩ (-1) (-2) = .error (.negativeProgress (-1)) ∧
    SizeFormat.progress ⟨.english⟩ 5 3 = .error (.progressBeyondTotal 5 3) ∧
    ((∃ text, SizeFormat.progress ⟨.english⟩ 5 (10 ^ 38) = .ok text) ↔
      ∃ text, SizeFormat.format ⟨.english⟩ (10 ^ 38) = .ok text) ∧
    ((∃ text, SizeFormat.progress ⟨.english⟩ 5 (-1) = .ok text) ↔
      ∃ text, SizeFormat.format ⟨.english⟩ 5 = .ok text) := by
  obtain ⟨hformat, hselect, hprogress, -⟩ := faults_classified ⟨.english⟩
  have hshow : ¬ Showable (10 ^ 28) .byte := by
    rw [showable_byte_iff]
    exact lt_irrefl _
  have hfault : numberFault (10 ^ 28) .byte = .tooManyDigits := by
    rw [numberFault, ← digitLimit_eq_scaled, if_neg digitLimit_lt_limit.not_ge]
  have hdigits : SizeFormat.formatIn ⟨.english⟩ (10 ^ 28 : ℕ) .byte true =
      .error .tooManyDigits := by
    rw [← hfault]
    exact ((hformat (10 ^ 28 : ℕ) .byte true).2.2.2 (by positivity)).2 hshow
  exact ⟨(hformat (-1) .byte true).1.2 (by decide), (hformat (-1) .byte true).2.2.1 (by decide),
    hshow, hdigits, (hselect (10 ^ 28 : ℕ)).2.2 (by positivity),
    (hprogress (-1) (-2)).2.2.1 (by decide),
    (hprogress 5 3).2.2.2.1 (by decide) (by decide),
    (hprogress 5 (10 ^ 38)).2.2.2.2.1 (by decide) (by decide),
    (hprogress 5 (-1)).2.2.2.2.2 (by decide) (by decide)⟩

/-- A negative size of more digits than can be written is not refused as an invalid argument. -/
theorem unwritable_negativeSize :
    -Text.tooLong < 0 ∧
    SizeFormat.formatIn ⟨.english⟩ (-Text.tooLong) .byte true = .error .unwritableInteger ∧
    ¬ ∃ fault, SizeFormat.formatIn ⟨.english⟩ (-Text.tooLong) .byte true = .error fault ∧
      fault.errorClass = .invalidArgument := by
  have hneg : -Text.tooLong < 0 := neg_neg_of_pos Text.tooLong_pos
  have hformat : SizeFormat.formatIn ⟨.english⟩ (-Text.tooLong) .byte true =
      .error .unwritableInteger := by
    rw [formatIn_of_neg _ hneg, Fault.raised_of_unwritable (List.mem_singleton_self _)
      Text.not_isWritable_neg_tooLong]
  refine ⟨hneg, hformat, ?_⟩
  rintro ⟨fault, hfault, hrefused⟩
  rw [← Except.error.inj (hformat.symm.trans hfault)] at hrefused
  cases hrefused

end TransferReport.SizeFormat
