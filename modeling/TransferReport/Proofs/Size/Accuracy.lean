import Mathlib.Tactic.IntervalCases
import Mathlib.Tactic.Positivity
import TransferReport.Proofs.Size.Scaling

/-!
# The accuracy of a shown size

In the unit that suits it a size is shown to within a twentieth of itself, at any magnitude.  Half a
step of the last digit is just that at one and at ten units, and less above them, so little room is
left for other errors there.  Bytes are exact, tenths and the smaller whole numbers come from one
rounding of the exact quotient, and from `2 ^ 24 * 10 ^ 9` bytes on the errors of the double and of
its shortest decimal are lost in a number so large.
-/

namespace TransferReport.SizeFormat

open Number Number.Decimal

variable {size : ℕ} {unit : SizeUnit}

/-- What a number misses of the quotient, counted in bytes. -/
theorem abs_mul_bytes_sub_le {number error : ℚ} (h : |number - size / unit.bytes| ≤ error) :
    |number * unit.bytes - size| ≤ error * unit.bytes := by
  have hb : (0 : ℚ) < unit.bytes := by exact_mod_cast unit.bytes_pos
  have hsize : (size : ℚ) = size / unit.bytes * unit.bytes := (div_mul_cancel₀ _ hb.ne').symm
  calc
    |number * unit.bytes - size| = |number - size / unit.bytes| * unit.bytes := by
      conv_lhs => rw [hsize]
      rw [← sub_mul, abs_mul, abs_of_pos hb]
    _ ≤ error * unit.bytes := mul_le_mul_of_nonneg_right h hb.le

theorem abs_shownTenths_sub_le_of_hasTenths (h : HasTenths size unit) :
    |(shownTenths size unit / 10 : ℚ) - size / unit.bytes| ≤ 1 / 20 := by
  have hround := abs_roundHalfUp_sub_le (10 * size) unit.bytes_pos
  rw [shownTenths_of_hasTenths h]
  rw [abs_le] at hround ⊢
  push_cast [mul_div_assoc] at hround
  constructor
  · linarith
  · linarith

theorem abs_shownTenths_sub_le_of_lt_exactLimit (hunit : unit ≠ .byte)
    (hwhole : ¬ HasTenths size unit) (h : size < exactLimit) :
    |(shownTenths size unit / 10 : ℚ) - size / unit.bytes| ≤ 1 / 2 := by
  rw [shownTenths_of_whole hunit hwhole, places_shortest_scaled_zero hunit h, Nat.cast_mul,
    Nat.cast_ofNat, mul_div_cancel_left₀ _ (by norm_num)]
  exact abs_roundHalfUp_sub_le size unit.bytes_pos

/-- From one unit on the double of the quotient and its shortest decimal have a relative error of
at most `2 ^ -51` together. -/
theorem abs_value_shortest_scaled_sub_le (h : unit.bytes ≤ size) :
    |(shortest (scaled size unit)).value - size / unit.bytes| ≤ size / unit.bytes / 2 ^ 51 := by
  have hone := Binary64.cast_one_pos
  have hshortest := abs_units_sub_le (shortest (scaled size unit))
  rw [shortest_units (isDouble_scaled _ _)] at hshortest
  have hscaled := Binary64.abs_nearest_sub_le_spacing_nearest (size * Binary64.one) unit.bytes_pos
  rw [← quotient_mul_one, ← scaled] at hscaled
  have hspacing : (Binary64.spacing (scaled size unit) : ℚ) * 2 ^ 52 ≤ scaled size unit := by
    have hreached : 1 * Binary64.one ≤ scaled size unit := mul_one_le_scaled (by norm_num) (by omega)
    have hnormal : 2 ^ 52 < Binary64.one := Binary64.two_pow_lt_one (by norm_num)
    exact_mod_cast Binary64.spacing_mul_two_pow_le (by omega)
  rw [abs_le] at hshortest hscaled ⊢
  constructor
  · apply le_of_mul_le_mul_right _ hone
    linarith
  · apply le_of_mul_le_mul_right _ hone
    linarith

theorem abs_shownTenths_sub_le_of_exactLimit_le (hunit : unit ≠ .byte)
    (hwhole : ¬ HasTenths size unit) (h : exactLimit ≤ size) :
    |(shownTenths size unit / 10 : ℚ) - size / unit.bytes| ≤ size / unit.bytes / 20 := by
  have hb : (0 : ℚ) < unit.bytes := by exact_mod_cast unit.bytes_pos
  have hbytes := bytes_le unit
  unfold exactLimit at h
  have hquotient : (10 ^ 2 : ℚ) ≤ size / unit.bytes := by
    have hmany : 10 ^ 2 * unit.bytes ≤ size := by omega
    rw [le_div_iff₀ hb]
    exact_mod_cast hmany
  have hcut := abs_places_sub_le 0 (shortest (scaled size unit))
  have hvalue := abs_value_shortest_scaled_sub_le (by omega : unit.bytes ≤ size)
  rw [shownTenths_of_whole hunit hwhole, Nat.cast_mul, Nat.cast_ofNat,
    mul_div_cancel_left₀ _ (by norm_num)]
  rw [pow_zero, mul_one] at hcut
  rw [abs_le] at hcut hvalue ⊢
  constructor
  · linarith
  · linarith

/-- From one unit on the shown number of units is within a twentieth of the size. -/
theorem abs_shownTenths_mul_bytes_sub_le (h : unit = .byte ∨ unit.bytes ≤ size) :
    |(shownTenths size unit / 10 : ℚ) * unit.bytes - size| ≤ size / 20 := by
  by_cases hunit : unit = .byte
  · subst hunit
    have hexact : (shownTenths size .byte / 10 : ℚ) * SizeUnit.byte.bytes - size = 0 := by
      rw [shownTenths_byte, SizeUnit.bytes]
      push_cast
      ring
    rw [hexact, abs_zero]
    positivity
  have hreached : unit.bytes ≤ size := h.resolve_left hunit
  have hreached' : (unit.bytes : ℚ) ≤ size := by exact_mod_cast hreached
  by_cases htenths : HasTenths size unit
  · have hclose := abs_mul_bytes_sub_le (abs_shownTenths_sub_le_of_hasTenths htenths)
    linarith
  · have hten : 10 * unit.bytes ≤ size := by
      by_contra hlt
      exact htenths ⟨hunit, by omega, not_le.1 hlt⟩
    rcases Nat.lt_or_ge size exactLimit with hexact | hlarge
    · have hclose := abs_mul_bytes_sub_le
        (abs_shownTenths_sub_le_of_lt_exactLimit hunit htenths hexact)
      have hten' : (10 * unit.bytes : ℚ) ≤ size := by exact_mod_cast hten
      linarith
    · have hclose := abs_mul_bytes_sub_le
        (abs_shownTenths_sub_le_of_exactLimit_le hunit htenths hlarge)
      have hb : (unit.bytes : ℚ) ≠ 0 := by exact_mod_cast unit.bytes_pos.ne'
      rwa [div_right_comm, div_mul_cancel₀ _ hb] at hclose

/-- The decimal digits of a number begin with a zero only if it is zero. -/
theorem head?_toDigits_eq_zero_iff (n : ℕ) : (Nat.toDigits 10 n).head? = some '0' ↔ n = 0 := by
  induction n using Nat.strongRecOn with
  | ind n ih =>
    rcases Nat.lt_or_ge n 10 with hdigit | hlarge
    · rw [Nat.toDigits_of_lt_base hdigit]
      interval_cases n <;> decide
    · have hfront : n / 10 ≠ 0 := by omega
      rw [Nat.toDigits_of_base_le (by norm_num) hlarge,
        List.head?_append_of_ne_nil _ Nat.toDigits_ne_nil, ih _ (by omega)]
      omega

/-- The count of characters behind the decimal mark. -/
def placeCount (mark : Char) (number : String) : ℕ :=
  (number.toList.dropWhile (· != mark)).length - 1

theorem placeCount_numberText {mark : Char} (hmark : mark.isDigit = false) :
    placeCount mark (numberText mark size unit) = if HasTenths size unit then 1 else 0 := by
  have hdigits (n : ℕ) : mark ∉ Nat.toDigits 10 n := notMem_toDigits hmark n
  unfold placeCount
  split
  · rename_i h
    rw [toList_numberText_of_hasTenths mark h, dropWhile_ne_append (hdigits _),
      List.dropWhile_cons_of_neg (by simp),
      Nat.toDigits_of_lt_base (Nat.mod_lt _ (by norm_num))]
    rfl
  · rename_i h
    have hdrop := dropWhile_ne_append (hdigits (shownTenths size unit / 10)) []
    rw [List.append_nil] at hdrop
    rw [toList_numberText_of_whole mark h, hdrop]
    rfl

theorem head?_numberText (mark : Char) (size : ℕ) (unit : SizeUnit) :
    (numberText mark size unit).toList.head? = some '0' ↔ shownTenths size unit < 10 := by
  have hwhole : (Nat.toDigits 10 (shownTenths size unit / 10)).head? = some '0' ↔
      shownTenths size unit < 10 := by
    rw [head?_toDigits_eq_zero_iff]
    omega
  by_cases h : HasTenths size unit
  · rw [toList_numberText_of_hasTenths mark h, List.head?_append_of_ne_nil _ Nat.toDigits_ne_nil,
      hwhole]
  · rw [toList_numberText_of_whole mark h, hwhole]

theorem bytes_forSize_le (h : 0 < size) : (SizeUnit.forSize size).bytes ≤ size := by
  have hle : (SizeUnit.forSize size).bytes ≤ max size 1 :=
    SizeUnit.bytes_le_bytes_forSize_iff.1 le_rfl
  omega

theorem hasTenths_forSize_iff :
    HasTenths size (SizeUnit.forSize size) ↔
      SizeUnit.forSize size ≠ .byte ∧ size < 10 * (SizeUnit.forSize size).bytes := by
  rcases Nat.eq_zero_or_pos size with rfl | hpos
  · decide
  · have hreached := bytes_forSize_le hpos
    refine ⟨fun h ↦ ⟨h.1, h.2.2⟩, fun h ↦ ⟨h.1, by omega, h.2⟩⟩

theorem shownTenths_forSize_lt_ten_iff : shownTenths size (SizeUnit.forSize size) < 10 ↔ size = 0 := by
  rcases Nat.eq_zero_or_pos size with rfl | hpos
  · decide
  · have hleast := ten_le_shownTenths (bytes_forSize_le hpos)
    omega

/-- With a mark that is no digit the number of a text is read as it was shown, and it is as close to
the size as the double of the quotient and the decimal place allow. -/
theorem exists_number_of_format {f : SizeFormat} (hdigit : f.mark.isDigit = false) {size : ℤ}
    {text : String} (hformat : f.format size = .ok text) :
    ∃ unit number shown, SizeUnit.select size = .ok unit ∧
      text = number ++ (" " ++ unit.symbol) ∧
      number? f.mark number.toList = some shown ∧
      |shown * unit.bytes - size| ≤ size / 20 ∧
      (1 ≤ size → 1 ≤ shown) ∧
      (number.toList.head? = some '0' ↔ size = 0) ∧ (size = 0 → number = "0") ∧
      placeCount f.mark number = if unit ≠ .byte ∧ size < 10 * unit.bytes then 1 else 0 := by
  obtain ⟨hlow, hshow⟩ := (exists_formatIn_iff f true).1 ⟨text, hformat⟩
  rw [format, formatIn_of_showable f hlow hshow, if_pos rfl] at hformat
  have hselect := SizeUnit.select_of_nonneg hlow
  lift size to ℕ using hlow
  rw [Int.toNat_natCast] at hformat hselect
  have hsuits : SizeUnit.forSize size = .byte ∨ (SizeUnit.forSize size).bytes ≤ size := by
    rcases Nat.eq_zero_or_pos size with rfl | hpos
    · exact .inl rfl
    · exact .inr (bytes_forSize_le hpos)
  refine ⟨SizeUnit.forSize size, numberText f.mark size (SizeUnit.forSize size), _, hselect,
    (Except.ok.inj hformat).symm, number?_numberText hdigit, ?_, ?_, ?_, ?_, ?_⟩
  · rw [Int.cast_natCast]
    exact abs_shownTenths_mul_bytes_sub_le hsuits
  · intro hpos
    have hleast : 10 ≤ shownTenths size (SizeUnit.forSize size) :=
      ten_le_shownTenths (bytes_forSize_le (by omega))
    have hleast' : (10 : ℚ) ≤ shownTenths size (SizeUnit.forSize size) := by exact_mod_cast hleast
    linarith
  · rw [head?_numberText, shownTenths_forSize_lt_ten_iff, Nat.cast_eq_zero]
  · intro hzero
    obtain rfl : size = 0 := by exact_mod_cast hzero
    rfl
  · rw [placeCount_numberText hdigit]
    apply if_congr _ rfl rfl
    rw [hasTenths_forSize_iff]
    exact_mod_cast Iff.rfl

/-- In the format of every locale the text of a size is a number, a blank and the symbol of its unit.  The number read in that
unit is within a twentieth of the size and is at least one unless the size is zero; it begins with
no zero but that of the size zero, which stands alone, and has one decimal place exactly if the size
is less than ten units other than bytes. -/
theorem format_accurate {value : Value} {f : SizeFormat} (hf : ofValue value = .ok f) {size : ℤ}
    {text : String} (hformat : f.format size = .ok text) :
    ∃ unit number shown, SizeUnit.select size = .ok unit ∧
      text = number ++ (" " ++ unit.symbol) ∧
      number? f.mark number.toList = some shown ∧
      |shown * unit.bytes - size| ≤ size / 20 ∧
      (1 ≤ size → 1 ≤ shown) ∧
      (number.toList.head? = some '0' ↔ size = 0) ∧ (size = 0 → number = "0") ∧
      placeCount f.mark number = if unit ≠ .byte ∧ size < 10 * unit.bytes then 1 else 0 := by
  obtain ⟨hdigit, -⟩ := mark_of_ofValue hf
  exact exists_number_of_format hdigit hformat

/-- Of thirty digits the double of the quotient keeps seventeen. -/
theorem format_accurate_thirtyDigits :
    ofValue (.text "en") = .ok ⟨.english⟩ ∧
      SizeFormat.format ⟨.english⟩ 123456789012345678901234567890 =
        .ok "123456789012345680000 GB" ∧
      ∃ unit number shown, SizeUnit.select 123456789012345678901234567890 = .ok unit ∧
        "123456789012345680000 GB" = number ++ (" " ++ unit.symbol) ∧
        number? '.' number.toList = some shown ∧
        |shown * unit.bytes - 123456789012345678901234567890| ≤
          123456789012345678901234567890 / 20 ∧
        1 ≤ shown ∧ number.toList.head? ≠ some '0' ∧ placeCount '.' number = 0 := by
  have hf : ofValue (.text "en") = .ok ⟨.english⟩ := rfl
  have hformat : SizeFormat.format ⟨.english⟩ 123456789012345678901234567890 =
      .ok "123456789012345680000 GB" := by
    have hshow : Showable 123456789012345678901234567890
        (SizeUnit.forSize 123456789012345678901234567890) :=
      showable_forSize_mono (by norm_num) showable_two_pow
    have hunit : SizeUnit.forSize 123456789012345678901234567890 = .gigabyte := by
      rw [SizeUnit.forSize_eq, if_pos (by decide)]
    have htext : numberText '.' 123456789012345678901234567890 .gigabyte ++
        (" " ++ SizeUnit.gigabyte.symbol) = "123456789012345680000 GB" := by
      decide +kernel
    have hnumber := formatIn_of_showable ⟨.english⟩ (Int.natCast_nonneg _) hshow true
    rw [Int.toNat_natCast, hunit, if_pos rfl] at hnumber
    exact hnumber.trans (congrArg Except.ok htext)
  obtain ⟨unit, number, shown, hselect, htext, hread, hclose, hleast, hzero, -, hplaces⟩ :=
    format_accurate hf hformat
  have hunit : unit = .gigabyte := by
    rw [SizeUnit.select_of_nonneg (by decide), SizeUnit.forSize_eq, if_pos (by decide)] at hselect
    exact (Except.ok.inj hselect).symm
  refine ⟨hf, hformat, unit, number, shown, hselect, htext, hread, by rwa [Int.cast_ofNat] at hclose,
    hleast (by decide), fun h ↦ absurd (hzero.1 h) (by decide), ?_⟩
  rw [hunit] at hplaces
  exact hplaces.trans (if_neg (by decide))

end TransferReport.SizeFormat
