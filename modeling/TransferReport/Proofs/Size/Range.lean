import TransferReport.Message
import TransferReport.Proofs.Size.Faults

/-!
# Progress in range

The whole that progress is shown of is raised to the part, so only a negative part is refused.  Every
size up to `2 ^ 120`, which is more than `10 ^ 36`, can be shown in the unit that suits it, and so
can the progress of such a part of such a whole, or of an unknown one.
-/

namespace TransferReport.SizeFormat

open Number

variable {f : SizeFormat} {part whole : ℤ}

theorem progress_raisedTotal_of_alone (hlow : 0 ≤ part) (h : whole < 0 ∨ whole ≤ part) :
    f.progress part (Message.raisedTotal part whole) = f.format part := by
  apply progress_of_alone f hlow
  unfold Message.raisedTotal
  rcases h with hunknown | hreached
  · rw [if_neg hunknown.not_ge]
    exact .inl hunknown
  · by_cases hknown : 0 ≤ whole
    · rw [if_pos hknown, max_eq_right hreached]
      exact .inr rfl
    · rw [if_neg hknown]
      exact .inl (not_le.1 hknown)

/-- The part alone is shown unless less of a known whole has been transferred. -/
theorem progress_raisedTotal (f : SizeFormat) (part whole : ℤ) :
    f.progress part (Message.raisedTotal part whole) =
      if part < 0 then .error (Fault.negativeProgress part).raised
      else if whole < 0 ∨ whole ≤ part then f.format part
      else f.progress part whole := by
  split
  · rename_i hneg
    exact progress_of_neg f hneg _
  · rename_i hlow
    rw [not_lt] at hlow
    split
    · rename_i h
      exact progress_raisedTotal_of_alone hlow h
    · rename_i h
      rw [not_or, not_lt, not_le] at h
      rw [Message.raisedTotal, if_pos h.1, max_eq_left h.2.le]

/-- A raised total is never less than the part. -/
theorem not_beyond_raisedTotal :
    ¬ (0 ≤ Message.raisedTotal part whole ∧ Message.raisedTotal part whole < part) := by
  unfold Message.raisedTotal
  split
  · exact fun h ↦ h.2.not_ge (le_max_right whole part)
  · rename_i hunknown
    exact fun h ↦ hunknown h.1

theorem exists_progress_raisedTotal_error_iff {kind : ErrorClass} (hoverflow : kind ≠ .overflow)
    (hdigits : kind ≠ .invalidOperation) :
    (∃ fault, f.progress part (Message.raisedTotal part whole) = .error fault ∧
      fault.errorClass = kind) ↔ part < 0 ∧ Fault.refusalClass part = kind := by
  rw [exists_progress_error_iff hoverflow hdigits, or_iff_left not_beyond_raisedTotal]

theorem progress_raisedTotal_ne_beyond (more less : ℤ) :
    f.progress part (Message.raisedTotal part whole) ≠ .error (.progressBeyondTotal more less) := by
  intro hbeyond
  have hrefused : (Fault.progressBeyondTotal more less).errorClass = .invalidArgument := rfl
  obtain ⟨hneg, -⟩ :=
    (exists_progress_raisedTotal_error_iff (by decide) (by decide)).1 ⟨_, hbeyond, hrefused⟩
  rw [progress_of_neg f hneg] at hbeyond
  have hother : (Fault.negativeProgress part).raised ≠ .progressBeyondTotal more less := by
    unfold Fault.raised
    split <;> exact Fault.noConfusion
  exact hother (Except.error.inj hbeyond)

theorem showable_two_pow : Showable (2 ^ 120) (SizeUnit.forSize (2 ^ 120)) := by
  have hunit : SizeUnit.forSize (2 ^ 120) = .gigabyte := by
    rw [SizeUnit.forSize_eq, if_pos (by decide)]
  rw [hunit, showable_iff_of_ne_byte SizeUnit.noConfusion]
  calc
    scaled (2 ^ 120) .gigabyte ≤ 2 ^ 91 * Binary64.one := scaled_le_two_pow_mul_one (by decide)
    _ < 2 ^ 92 * Binary64.one := Nat.mul_lt_mul_of_pos_right (by norm_num) Binary64.one_pos
    _ ≤ digitLimit := by
      apply Binary64.le_nearest_of_isDouble Nat.zero_lt_one (Binary64.isDouble_two_pow_mul_one 92)
      rw [mul_one]
      exact Nat.mul_le_mul_right _ (by norm_num)

theorem exists_format (f : SizeFormat) (hlow : 0 ≤ part) (h : part ≤ 2 ^ 120) :
    ∃ text, f.format part = .ok text := by
  have hle : part.toNat ≤ 2 ^ 120 := by
    zify
    rwa [Int.toNat_of_nonneg hlow]
  exact (exists_formatIn_iff f true).2 ⟨hlow, showable_forSize_mono hle showable_two_pow⟩

end TransferReport.SizeFormat
