import TransferReport.Proofs.Number.Halves
import TransferReport.SizeFormat

/-!
# A size counted in a unit, as a double

The double nearest to size / unit lies on the same side of the two limits of the formatter, and of
every tie of the tenths below ten units, as the exact quotient.  The ties of the whole numbers need
the size to be below `2 ^ 24 * 10 ^ 9`: beyond it half a spacing reaches `1 / unit`.
-/

namespace TransferReport.SizeFormat

open Number Number.Binary64 Number.Decimal

/-- The sizes whose whole-number ties the double of the quotient cannot cross. -/
def exactLimit : ℕ := 2 ^ 24 * 10 ^ 9

variable {size : ℕ} {unit : SizeUnit}

theorem isDouble_scaled (size : ℕ) (unit : SizeUnit) : IsDouble (scaled size unit) :=
  isDouble_nearest _ unit.bytes_pos

/-- The exact quotient that is rounded. -/
theorem quotient_mul_one (size : ℕ) (unit : SizeUnit) :
    (size / unit.bytes : ℚ) * one = ((size * one : ℕ) : ℚ) / unit.bytes := by
  push_cast
  ring

theorem mul_one_le_scaled {m : ℕ} (hm : m < 2 ^ 53) (h : m * unit.bytes ≤ size) :
    m * one ≤ scaled size unit := by
  apply le_nearest_of_isDouble unit.bytes_pos (isDouble_mul_one hm.le)
  calc
    m * one * unit.bytes = m * unit.bytes * one := Nat.mul_right_comm _ _ _
    _ ≤ size * one := Nat.mul_le_mul_right one h

theorem scaled_le_mul_one {m : ℕ} (hm : m < 2 ^ 53) (h : size ≤ m * unit.bytes) :
    scaled size unit ≤ m * one := by
  apply nearest_le_of_isDouble unit.bytes_pos (isDouble_mul_one hm.le)
  calc
    size * one ≤ m * unit.bytes * one := Nat.mul_le_mul_right one h
    _ = m * one * unit.bytes := Nat.mul_right_comm _ _ _

theorem scaled_le_two_pow_mul_one {e : ℕ} (h : size ≤ 2 ^ e * unit.bytes) :
    scaled size unit ≤ 2 ^ e * one := by
  apply nearest_le_of_isDouble unit.bytes_pos (isDouble_two_pow_mul_one e)
  calc
    size * one ≤ 2 ^ e * unit.bytes * one := Nat.mul_le_mul_right one h
    _ = 2 ^ e * one * unit.bytes := Nat.mul_right_comm _ _ _

theorem limit_le_scaled {e : ℕ} (he : 1024 ≤ e) (h : 2 ^ e * unit.bytes ≤ size) :
    limit ≤ scaled size unit := by
  have hlimit : limit ≤ 2 ^ e * one := by
    rw [limit_eq, two_pow_mul_one]
    exact pow_le_pow_right₀ (by norm_num) (by omega)
  apply hlimit.trans
  apply le_nearest_of_isDouble unit.bytes_pos (isDouble_two_pow_mul_one e)
  calc
    2 ^ e * one * unit.bytes = 2 ^ e * unit.bytes * one := Nat.mul_right_comm _ _ _
    _ ≤ size * one := Nat.mul_le_mul_right one h

theorem scaled_lt_limit {e : ℕ} (he : e < 1024) (h : size ≤ 2 ^ e * unit.bytes) :
    scaled size unit < limit := by
  calc
    scaled size unit ≤ 2 ^ e * one := scaled_le_two_pow_mul_one h
    _ < limit := two_pow_mul_one_lt_limit he

/-- A half-integer is a double, so its tie reads back exactly. -/
theorem units_tie_zero {k : ℕ} (hk : 2 * k + 1 < 2 ^ 53) :
    ((tie 0 k).units : ℚ) = (tie 0 k).value * one := by
  rw [tie_zero]
  exact (value_halves_mul_one (units_halves hk.le)).symm

theorem value_tie_le_iff {p k : ℕ} :
    (tie p k).value ≤ size / unit.bytes ↔ (2 * k + 1) * unit.bytes ≤ 2 * (10 ^ p * size) := by
  have hb : (0 : ℚ) < unit.bytes := by exact_mod_cast unit.bytes_pos
  rw [value_tie, div_le_div_iff₀ (by positivity) hb]
  rw [show (size : ℚ) * (2 * 10 ^ p) = 2 * (10 ^ p * size) by ring]
  exact_mod_cast Iff.rfl

theorem units_tie_le_scaled {p k : ℕ} (h : (2 * k + 1) * unit.bytes ≤ 2 * (10 ^ p * size)) :
    (tie p k).units ≤ scaled size unit := by
  rw [units_eq]
  apply nearest_mono_of_div_le (by positivity) unit.bytes_pos
  rw [← value_mul_one, ← quotient_mul_one]
  exact mul_le_mul_of_nonneg_right (value_tie_le_iff.2 h) cast_one_pos.le

/-- A tie whose double is reached exceeds the exact quotient by at most a spacing. -/
theorem value_tie_sub_le {p k : ℕ} (h : (tie p k).units ≤ scaled size unit) :
    ((tie p k).value - size / unit.bytes) * one ≤ spacing (scaled size unit) := by
  have hspacing : (spacing (tie p k).units : ℚ) ≤ spacing (scaled size unit) := by
    exact_mod_cast spacing_mono h
  rw [units_eq] at h hspacing
  rw [sub_mul, value_mul_one, quotient_mul_one]
  exact (sub_le_spacing unit.bytes_pos (by positivity) h).trans hspacing

/-- A tie missed by so much lies that much above the exact quotient. -/
theorem le_value_tie_sub {p k g : ℕ}
    (h : 2 * (10 ^ p * size) + g ≤ (2 * k + 1) * unit.bytes) :
    (g : ℚ) ≤ ((tie p k).value - size / unit.bytes) * (2 * 10 ^ p * unit.bytes) := by
  have hb : (0 : ℚ) < unit.bytes := by exact_mod_cast unit.bytes_pos
  have hcast : (2 * (10 ^ p * size) + g : ℚ) ≤ (2 * k + 1) * unit.bytes := by exact_mod_cast h
  have hvalue : ((tie p k).value - size / unit.bytes) * (2 * 10 ^ p * unit.bytes) =
      (2 * k + 1) * unit.bytes - 2 * (10 ^ p * size) := by
    rw [value_tie]
    field_simp
  rw [hvalue]
  linarith

/-- The double of a quotient below `2 ^ e` is within `2 ^ (e - 54)` of it. -/
theorem abs_scaled_sub_le {e : ℕ} (h : size < 2 ^ e * unit.bytes) :
    |(scaled size unit : ℚ) - size / unit.bytes * one| * 2 ^ 54 ≤ 2 ^ e * one := by
  have hfloor : size * one / unit.bytes < 2 ^ e * one := by
    rw [Nat.div_lt_iff_lt_mul unit.bytes_pos]
    nlinarith [one_pos]
  have hspacing : (spacing (size * one / unit.bytes) : ℚ) * 2 ^ 53 ≤ 2 ^ e * one := by
    exact_mod_cast spacing_mul_le_one hfloor
  have hnear := abs_nearest_sub_le (size * one) unit.bytes_pos
  rw [← quotient_mul_one] at hnear
  unfold scaled
  linarith

theorem bytes_le (unit : SizeUnit) : unit.bytes ≤ 10 ^ 9 := by
  cases unit <;> decide

theorem spacing_scaled_mul_le {m e : ℕ} (hm : m < 2 ^ e) (hm' : m < 2 ^ 53)
    (h : size ≤ m * unit.bytes) : (spacing (scaled size unit) : ℚ) * 2 ^ 53 ≤ 2 ^ e * one := by
  have hscaled : scaled size unit < 2 ^ e * one := by
    calc
      scaled size unit ≤ m * one := scaled_le_mul_one hm' h
      _ < 2 ^ e * one := Nat.mul_lt_mul_of_pos_right hm Binary64.one_pos
  exact_mod_cast spacing_mul_le_one hscaled

/-- Below ten units the double of the quotient crosses no tie of the tenths. -/
theorem units_tie_one_le_scaled_iff {k : ℕ} (h : size < 10 * unit.bytes) :
    (tie 1 k).units ≤ scaled size unit ↔ (2 * k + 1) * unit.bytes ≤ 2 * (10 ^ 1 * size) := by
  refine ⟨fun hle ↦ ?_, units_tie_le_scaled⟩
  by_contra hlt
  have hgap : (1 : ℚ) ≤ ((tie 1 k).value - size / unit.bytes) * (2 * 10 ^ 1 * unit.bytes) := by
    exact_mod_cast le_value_tie_sub (not_le.1 hlt)
  have hclose : ((tie 1 k).value - size / unit.bytes) * 2 ^ 53 ≤ 2 ^ 4 := by
    apply le_of_mul_le_mul_right _ cast_one_pos
    linarith [value_tie_sub_le hle, spacing_scaled_mul_le (e := 4) (by norm_num) (by norm_num) h.le]
  have hbytes : (unit.bytes : ℚ) ≤ 10 ^ 9 := by exact_mod_cast bytes_le unit
  nlinarith

theorem smallLimit_eq : smallLimit = (tie 1 0).units := by
  rw [units_eq]
  apply nearest_congr (by norm_num) (by positivity)
  simp [tie]

/-- The lower limit is decided by the exact quotient. -/
theorem scaled_lt_smallLimit_iff : scaled size unit < smallLimit ↔ 20 * size < unit.bytes := by
  rcases Nat.lt_or_ge size (10 * unit.bytes) with hsize | hsize
  · rw [smallLimit_eq, ← not_le, units_tie_one_le_scaled_iff hsize]
    omega
  · have hreached : smallLimit ≤ scaled size unit := by
      rw [smallLimit_eq]
      exact units_tie_le_scaled (by omega)
    omega

/-- The upper limit is decided by the exact quotient. -/
theorem largeLimit_le_scaled_iff : largeLimit ≤ scaled size unit ↔ 10 * unit.bytes ≤ size := by
  refine ⟨fun hle ↦ ?_, mul_one_le_scaled (by norm_num)⟩
  by_contra hlt
  rw [not_le] at hlt
  have hb : (0 : ℚ) < unit.bytes := by exact_mod_cast unit.bytes_pos
  have hbytes : (unit.bytes : ℚ) ≤ 10 ^ 9 := by exact_mod_cast bytes_le unit
  have hreached : (10 * one : ℚ) ≤ scaled size unit := by exact_mod_cast hle
  have hnear := abs_scaled_sub_le (e := 4) (by omega : size < 2 ^ 4 * unit.bytes)
  have hclose : (10 - size / unit.bytes : ℚ) * 2 ^ 54 ≤ 2 ^ 4 := by
    apply le_of_mul_le_mul_right _ cast_one_pos
    linarith [le_abs_self ((scaled size unit : ℚ) - size / unit.bytes * one)]
  have hgap : (1 : ℚ) ≤ (10 - size / unit.bytes) * unit.bytes := by
    have hcast : (size + 1 : ℚ) ≤ 10 * unit.bytes := by exact_mod_cast hlt
    rw [sub_mul, div_mul_cancel₀ _ hb.ne']
    linarith
  nlinarith only [hclose, hgap, hbytes, hb]

theorem exists_two_pow_bound (hunit : unit ≠ .byte) (h : size < exactLimit) :
    ∃ e ≤ 44, size < 2 ^ e * unit.bytes ∧ 2 ^ e * unit.bytes < 2 ^ 54 := by
  unfold exactLimit at h
  cases unit with
  | byte => exact absurd rfl hunit
  | kilobyte => exact ⟨44, by norm_num, by norm_num [SizeUnit.bytes]; omega, by decide⟩
  | megabyte => exact ⟨34, by norm_num, by norm_num [SizeUnit.bytes]; omega, by decide⟩
  | gigabyte => exact ⟨24, by norm_num, by norm_num [SizeUnit.bytes]; omega, by decide⟩

theorem size_le_of_lt_exactLimit (hunit : unit ≠ .byte) (h : size < exactLimit) :
    size ≤ 2 ^ 44 * unit.bytes := by
  obtain ⟨e, he, hsize, -⟩ := exists_two_pow_bound hunit h
  calc
    size ≤ 2 ^ e * unit.bytes := hsize.le
    _ ≤ 2 ^ 44 * unit.bytes := Nat.mul_le_mul_right _ (Nat.pow_le_pow_right (by norm_num) he)

theorem spacing_scaled_mul_le_of_lt_exactLimit (hunit : unit ≠ .byte) (h : size < exactLimit) :
    (spacing (scaled size unit) : ℚ) * 2 ^ 53 ≤ 2 ^ 45 * one :=
  spacing_scaled_mul_le (e := 45) (by norm_num) (by norm_num) (size_le_of_lt_exactLimit hunit h)

theorem even_bytes (hunit : unit ≠ .byte) : unit.bytes % 2 = 0 := by
  cases unit with
  | byte => exact absurd rfl hunit
  | kilobyte => rfl
  | megabyte => rfl
  | gigabyte => rfl

/-- Below the limit of exactness the double of the quotient crosses no tie of the whole numbers. -/
theorem units_tie_zero_le_scaled_iff {k : ℕ} (hunit : unit ≠ .byte) (h : size < exactLimit) :
    (tie 0 k).units ≤ scaled size unit ↔ (2 * k + 1) * unit.bytes ≤ 2 * (10 ^ 0 * size) := by
  refine ⟨fun hle ↦ ?_, units_tie_le_scaled⟩
  by_contra hlt
  obtain ⟨e, -, hsize, hbound⟩ := exists_two_pow_bound hunit h
  have hgap : (2 : ℚ) ≤ ((tie 0 k).value - size / unit.bytes) * (2 * 10 ^ 0 * unit.bytes) := by
    have heven : (2 * k + 1) * unit.bytes % 2 = 0 := by
      rw [Nat.mul_mod, even_bytes hunit]
      simp
    have hmissed : 2 * (10 ^ 0 * size) + 2 ≤ (2 * k + 1) * unit.bytes := by omega
    exact_mod_cast le_value_tie_sub hmissed
  -- the double nearest to the tie is in range, so the tie is, and then it is a double itself
  have hk : 2 * k + 1 < 2 ^ 53 := by
    have hquotient : (size / unit.bytes : ℚ) ≤ 2 ^ 44 := by
      rw [div_le_iff₀ (by exact_mod_cast unit.bytes_pos)]
      exact_mod_cast size_le_of_lt_exactLimit hunit h
    have hclose : ((tie 0 k).value - size / unit.bytes) * 2 ^ 53 ≤ 2 ^ 45 := by
      apply le_of_mul_le_mul_right _ cast_one_pos
      linarith [value_tie_sub_le hle, spacing_scaled_mul_le_of_lt_exactLimit hunit h]
    have hcast : ((2 * k + 1 : ℕ) : ℚ) < (2 ^ 53 : ℕ) := by
      rw [value_tie] at hclose
      push_cast
      linarith
    exact_mod_cast hcast
  have hreached : (tie 0 k).value * one ≤ scaled size unit := by
    rw [← units_tie_zero hk]
    exact_mod_cast hle
  have hnear := abs_scaled_sub_le hsize
  have hclose : ((tie 0 k).value - size / unit.bytes) * 2 ^ 54 ≤ 2 ^ e := by
    apply le_of_mul_le_mul_right _ cast_one_pos
    linarith [le_abs_self ((scaled size unit : ℚ) - size / unit.bytes * one)]
  have hbound' : (2 ^ e * unit.bytes : ℚ) < 2 ^ 54 := by exact_mod_cast hbound
  nlinarith

end TransferReport.SizeFormat
