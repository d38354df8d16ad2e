import TransferReport.Proofs.Size.Range

/-!
# Sizes a thousand times larger, in the next unit

Above the byte the text of a size depends on the exact quotient of size and unit alone, since that
is rounded to a double before anything else looks at it, and size and unit are not rounded before.
So a common factor of both is never seen: a thousand times a size is shown in the next unit by the
same number, or fails for the same reason, be the size small, large or beyond the doubles itself.
Bytes are left out because a size in bytes is written whole, not as a double.
-/

namespace TransferReport

namespace SizeUnit

/-- Two units of which the larger is a thousand of the smaller, and neither is the byte. -/
structure Consecutive (lower upper : SizeUnit) : Prop where
  ne_byte : lower ≠ byte
  bytes_eq : upper.bytes = 1000 * lower.bytes

theorem consecutive_kilobyte : Consecutive kilobyte megabyte := ⟨SizeUnit.noConfusion, rfl⟩

theorem consecutive_megabyte : Consecutive megabyte gigabyte := ⟨SizeUnit.noConfusion, rfl⟩

theorem Consecutive.upper_ne_byte {lower upper : SizeUnit} (h : Consecutive lower upper) :
    upper ≠ byte := by
  rintro rfl
  have hbytes : 1 = 1000 * lower.bytes := h.bytes_eq
  omega

/-- A thousand times a size has the next unit, as long as there is one. -/
theorem consecutive_forSize {size : ℕ} (hlow : 1000 ≤ size) (hhigh : size < 10 ^ 9) :
    Consecutive (forSize size) (forSize (1000 * size)) := by
  have hreached : kilobyte.bytes ≤ size := hlow
  have hgiga : ¬ gigabyte.bytes ≤ size := hhigh.not_ge
  rcases Nat.lt_or_ge size megabyte.bytes with hkilo | hmega
  · have hlower : forSize size = kilobyte := by
      rw [forSize_eq, if_neg hgiga, if_neg hkilo.not_ge, if_pos hreached]
    have hupper : forSize (1000 * size) = megabyte := by
      have hmega : megabyte.bytes ≤ 1000 * size := Nat.mul_le_mul_left 1000 hlow
      have hbelow : 1000 * size < gigabyte.bytes := Nat.mul_lt_mul_of_pos_left hkilo (by decide)
      rw [forSize_eq, if_neg hbelow.not_ge, if_pos hmega]
    rw [hlower, hupper]
    exact consecutive_kilobyte
  · have hlower : forSize size = megabyte := by
      rw [forSize_eq, if_neg hgiga, if_pos hmega]
    have hupper : forSize (1000 * size) = gigabyte := by
      have habove : gigabyte.bytes ≤ 1000 * size := Nat.mul_le_mul_left 1000 hmega
      rw [forSize_eq, if_pos habove]
    rw [hlower, hupper]
    exact consecutive_megabyte

theorem select_of_nonneg {size : ℤ} (h : 0 ≤ size) : select size = .ok (forSize size.toNat) := by
  rw [select, if_neg h.not_gt]

end SizeUnit

namespace SizeFormat

open Number SizeUnit

variable {lower upper : SizeUnit} {size : ℤ}

theorem toNat_thousandfold (size : ℤ) : (1000 * size).toNat = 1000 * size.toNat := by
  omega

/-- The double of a quotient depends on the exact quotient alone. -/
theorem scaled_congr {size other : ℕ} (h : size * upper.bytes = other * lower.bytes) :
    scaled size lower = scaled other upper := by
  apply Binary64.nearest_congr lower.bytes_pos upper.bytes_pos
  calc
    size * Binary64.one * upper.bytes = size * upper.bytes * Binary64.one :=
      Nat.mul_right_comm _ _ _
    _ = other * lower.bytes * Binary64.one := by rw [h]
    _ = other * Binary64.one * lower.bytes := Nat.mul_right_comm _ _ _

/-- Above the byte a size enters its number through the double of its quotient only. -/
theorem amount_congr (f : SizeFormat) {size other : ℕ} (hlower : lower ≠ .byte)
    (hupper : upper ≠ .byte) (h : scaled size lower = scaled other upper) :
    f.amount size lower = f.amount other upper := by
  simp only [amount, if_neg hlower, if_neg hupper, h]

theorem amount_thousandfold (f : SizeFormat) (h : Consecutive lower upper) (size : ℕ) :
    f.amount (1000 * size) upper = f.amount size lower := by
  apply amount_congr f h.upper_ne_byte h.ne_byte
  apply scaled_congr
  rw [h.bytes_eq]
  ring

theorem formatIn_thousandfold (f : SizeFormat) (h : Consecutive lower upper) (hlow : 0 ≤ size) :
    f.formatIn (1000 * size) upper false = f.formatIn size lower false := by
  have hlarger : ¬ 1000 * size < 0 := by omega
  rw [formatIn, formatIn, if_neg hlarger, if_neg hlow.not_gt, toNat_thousandfold,
    amount_thousandfold f h]
  rfl

/-- The symbol follows the number that is shown without it. -/
theorem formatIn_symbol (f : SizeFormat) {unit : SizeUnit} {number : String}
    (h : f.formatIn size unit false = .ok number) :
    f.formatIn size unit true = .ok (number ++ (" " ++ unit.symbol)) := by
  obtain ⟨hlow, hshow⟩ := (exists_formatIn_iff f false).1 ⟨number, h⟩
  rw [formatIn_of_showable f hlow hshow, if_neg Bool.false_ne_true, String.append_empty] at h
  rw [formatIn_of_showable f hlow hshow, if_pos rfl, Except.ok.inj h]

/-- In the unit that suits it a size in range has a number. -/
theorem exists_formatIn_forSize (f : SizeFormat) (hlow : 0 ≤ size) (h : size ≤ 2 ^ 120) :
    ∃ number, f.formatIn size (forSize size.toNat) false = .ok number := by
  obtain ⟨text, htext⟩ := exists_format f hlow h
  exact (exists_formatIn_iff f false).2 ((exists_formatIn_iff f true).1 ⟨text, htext⟩)

/-- The same text, or faults of the same class. -/
inductive SameOutcome : Except Fault String → Except Fault String → Prop
  | ok (text : String) : SameOutcome (.ok text) (.ok text)
  | error {fault other : Fault} (same : fault.errorClass = other.errorClass) :
      SameOutcome (.error fault) (.error other)

theorem SameOutcome.refl (outcome : Except Fault String) : SameOutcome outcome outcome := by
  cases outcome with
  | ok text => exact .ok text
  | error fault => exact .error rfl

/-- A negative size and a thousand times the size are refused, but not with the same class of fault
if only the smaller one can be written. -/
theorem sameOutcome_of_neg_iff (f : SizeFormat) (hneg : size < 0) :
    SameOutcome (f.formatIn (1000 * size) upper false) (f.formatIn size lower false) ↔
      ¬ (Text.isWritable size ∧ ¬ Text.isWritable (1000 * size)) := by
  have hlarger : 1000 * size < 0 := by omega
  have hshorter : Text.isWritable (1000 * size) → Text.isWritable size :=
    Text.isWritable_of_le (by omega)
  have hclass : Fault.refusalClass (1000 * size) = Fault.refusalClass size ↔
      ¬ (Text.isWritable size ∧ ¬ Text.isWritable (1000 * size)) := by
    unfold Fault.refusalClass
    by_cases hsmall : Text.isWritable size
    · by_cases hlarge : Text.isWritable (1000 * size)
      · simp [hsmall, hlarge]
      · simp [hsmall, hlarge]
    · simp [hsmall, mt hshorter hsmall]
  rw [formatIn_of_neg f hneg, formatIn_of_neg f hlarger, ← hclass, ← Fault.errorClass_negativeSize,
    ← Fault.errorClass_negativeSize]
  constructor
  · rintro ⟨⟩
    assumption
  · exact SameOutcome.error

/-- In consecutive units a size and a thousand times the size are shown by one number, or fail with
one fault.  Both are refused if they are negative, and then the classes of the faults differ exactly
if the size can be written and a thousand times the size cannot.  From a thousand bytes on and as
long as there is a next unit, the two texts with the units that suit them differ in the symbol
only. -/
theorem format_thousandfold (f : SizeFormat) (size : ℤ) :
    (∀ lower upper, Consecutive lower upper →
      (SameOutcome (f.formatIn (1000 * size) upper false) (f.formatIn size lower false) ↔
        ¬ (size < 0 ∧ Text.isWritable size ∧ ¬ Text.isWritable (1000 * size))) ∧
      (size < 0 → f.formatIn size lower false = .error (Fault.negativeSize size).raised ∧
        f.formatIn (1000 * size) upper false =
          .error (Fault.negativeSize (1000 * size)).raised) ∧
      (0 ≤ size → f.formatIn (1000 * size) upper false = f.formatIn size lower false)) ∧
    (1000 ≤ size → size < 10 ^ 9 → ∃ number lower upper,
      Consecutive lower upper ∧
      SizeUnit.select size = .ok lower ∧ SizeUnit.select (1000 * size) = .ok upper ∧
      f.format size = .ok (number ++ (" " ++ lower.symbol)) ∧
      f.format (1000 * size) = .ok (number ++ (" " ++ upper.symbol))) := by
  refine ⟨fun lower upper h ↦ ⟨?_, fun hneg ↦ ?_, formatIn_thousandfold f h⟩,
    fun hsize hbound ↦ ?_⟩
  · by_cases hneg : size < 0
    · rw [sameOutcome_of_neg_iff f hneg]
      exact not_congr (and_iff_right hneg).symm
    · rw [formatIn_thousandfold f h (not_lt.1 hneg)]
      exact iff_of_true (.refl _) fun both ↦ hneg both.1
  · have hlarger : 1000 * size < 0 := by omega
    exact ⟨formatIn_of_neg f hneg lower false, formatIn_of_neg f hlarger upper false⟩
  · have hlow : 0 ≤ size := by omega
    have hlarger : 0 ≤ 1000 * size := by omega
    have hunits : Consecutive (forSize size.toNat) (forSize (1000 * size).toNat) := by
      rw [toNat_thousandfold]
      exact consecutive_forSize (by omega) (by omega)
    obtain ⟨number, hnumber⟩ := exists_formatIn_forSize f hlow (by omega)
    have hsame : f.formatIn (1000 * size) (forSize (1000 * size).toNat) false = .ok number := by
      rw [formatIn_thousandfold f hunits hlow, hnumber]
    exact ⟨number, _, _, hunits, select_of_nonneg hlow, select_of_nonneg hlarger,
      formatIn_symbol f hnumber, formatIn_symbol f hsame⟩

/-- A negative size, one beyond the doubles together with its quotients, and one just below a
megabyte, which is rounded to a thousand kilobytes and a thousand times as large to a thousand
megabytes. -/
theorem format_thousandfold_edges :
    Consecutive .megabyte .gigabyte ∧
    SizeFormat.formatIn ⟨.english⟩ (1000 * (-1)) .gigabyte false =
      .error (.negativeSize (1000 * (-1))) ∧
    SizeFormat.formatIn ⟨.english⟩ (10 ^ 400 : ℕ) .megabyte false = .error .quotientOutOfRange ∧
    SizeFormat.formatIn ⟨.english⟩ (1000 * (10 ^ 400 : ℕ)) .gigabyte false =
      .error .quotientOutOfRange ∧
    SizeFormat.format ⟨.english⟩ (999950 : ℕ) = .ok "1000 kB" ∧
    ∃ number lower upper, Consecutive lower upper ∧
      SizeUnit.select (999950 : ℕ) = .ok lower ∧ SizeUnit.select (1000 * (999950 : ℕ)) = .ok upper ∧
      SizeFormat.format ⟨.english⟩ (999950 : ℕ) = .ok (number ++ (" " ++ lower.symbol)) ∧
      SizeFormat.format ⟨.english⟩ (1000 * (999950 : ℕ)) =
        .ok (number ++ (" " ++ upper.symbol)) := by
  have hlimit : Binary64.limit ≤ scaled (10 ^ 400) .megabyte :=
    limit_le_scaled (le_refl 1024) (by decide +kernel)
  have hdigits : ¬ Showable (10 ^ 400) .megabyte := fun hshow ↦
    (scaled_lt_limit_of_showable hshow).not_ge hlimit
  have hfault : SizeFormat.formatIn ⟨.english⟩ (10 ^ 400 : ℕ) .megabyte false =
      .error .quotientOutOfRange := by
    have h := formatIn_of_not_showable ⟨.english⟩ (Int.natCast_nonneg _) hdigits false
    rwa [Int.toNat_natCast, numberFault, if_pos hlimit] at h
  have hsame := ((format_thousandfold ⟨.english⟩ (10 ^ 400 : ℕ)).1 _ _ consecutive_megabyte).2.2
    (Int.natCast_nonneg _)
  have htext : SizeFormat.format ⟨.english⟩ (999950 : ℕ) = .ok "1000 kB" := by
    have hbelow : 999950 ≤ SizeUnit.megabyte.bytes := by decide
    have hshow : Showable 999950 .kilobyte := showable_of_le_bytes hbelow
    have hnumber : numberText '.' 999950 .kilobyte ++ (" " ++ SizeUnit.kilobyte.symbol) =
        "1000 kB" := by decide +kernel
    have hformat := formatIn_of_showable ⟨.english⟩ (Int.natCast_nonneg 999950) hshow true
    rw [← hnumber]
    exact hformat
  exact ⟨consecutive_megabyte,
    (((format_thousandfold ⟨.english⟩ (-1)).1 _ _ consecutive_megabyte).2.1 (by decide)).2,
    hfault, hsame.trans hfault, htext,
    (format_thousandfold ⟨.english⟩ (999950 : ℕ)).2 (by norm_num) (by norm_num)⟩

/-- A negative size is an invalid argument, and a thousand times as much, which is too long to be
written, is not. -/
theorem unwritable_thousandfold :
    Consecutive .kilobyte .megabyte ∧
    (∃ fault, SizeFormat.formatIn ⟨.english⟩ (-Text.nearlyTooLong) .kilobyte false = .error fault ∧
      fault.errorClass = .invalidArgument) ∧
    SizeFormat.formatIn ⟨.english⟩ (1000 * -Text.nearlyTooLong) .megabyte false =
      .error .unwritableInteger ∧
    ¬ SameOutcome (SizeFormat.formatIn ⟨.english⟩ (1000 * -Text.nearlyTooLong) .megabyte false)
      (SizeFormat.formatIn ⟨.english⟩ (-Text.nearlyTooLong) .kilobyte false) := by
  have hneg : -Text.nearlyTooLong < 0 := by
    have hpos := Text.tooLong_pos
    unfold Text.tooLong at hpos
    omega
  have hlarger : 1000 * -Text.nearlyTooLong = -Text.tooLong := Int.mul_neg _ _
  have hshort : Text.isWritable (-Text.nearlyTooLong) :=
    Text.isWritable_of_le (Int.natAbs_neg _).le Text.isWritable_nearlyTooLong
  have hlong : ¬ Text.isWritable (1000 * -Text.nearlyTooLong) := by
    rw [hlarger]
    exact Text.not_isWritable_neg_tooLong
  refine ⟨consecutive_kilobyte, ⟨_, formatIn_of_neg _ hneg _ _, ?_⟩, ?_, ?_⟩
  · rw [Fault.errorClass_negativeSize, Fault.refusalClass_eq_invalidArgument_iff]
    exact hshort
  · rw [formatIn_of_neg _ (by omega), Fault.raised_of_unwritable (List.mem_singleton_self _) hlong]
  · rw [sameOutcome_of_neg_iff _ hneg, not_not]
    exact ⟨hshort, hlong⟩

end SizeFormat

end TransferReport
