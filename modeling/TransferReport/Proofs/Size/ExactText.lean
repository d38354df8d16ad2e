import Mathlib.Order.Basic
import TransferReport.Proofs.Size.Scaled
import TransferReport.Proofs.Text.Numeral

/-!
# The text of a size by integer arithmetic

`exactText` writes a size in a unit without any double: the limits are comparisons of integers and
the digits come from one integer division that rounds half up.  Below `2 ^ 24 * 10 ^ 9` bytes it is
the text of the formatter in every unit, so neither the division to a double nor the shortest
decimal ever changes a digit or the choice between tenths and whole numbers there.
-/

namespace TransferReport.SizeFormat

open Number Number.Decimal

/-- The number that shows a size in a unit, from integers alone. -/
def exactAmount (mark : Char) (size : ℕ) (unit : SizeUnit) : String :=
  let b := unit.bytes
  let tenths := (20 * size + b) / (2 * b)
  if unit = .byte then toString size
  else if 20 * size < b ∨ 10 * b ≤ size then toString ((2 * size + b) / (2 * b))
  else toString (tenths / 10) ++ String.singleton mark ++ toString (tenths % 10)

/-- The size in a unit, from integers alone. -/
def exactText (mark : Char) (size : ℕ) (unit : SizeUnit) (symbol : Bool) : String :=
  exactAmount mark size unit ++ if symbol then " " ++ unit.symbol else ""

variable {size : ℕ} {unit : SizeUnit}

theorem places_shortest_scaled_zero (hunit : unit ≠ .byte) (h : size < exactLimit) :
    places 0 (shortest (scaled size unit)) = roundHalfUp size unit.bytes := by
  have hspacing : (Binary64.spacing (scaled size unit) : ℚ) * 10 ^ (0 + 1) < Binary64.one := by
    have hle := spacing_scaled_mul_le_of_lt_exactLimit hunit h
    rw [zero_add, pow_one]
    linarith [Binary64.cast_one_pos]
  apply eq_of_forall_lt_iff
  intro k
  rw [lt_places_shortest_iff (isDouble_scaled _ _) (by norm_num) hspacing,
    units_tie_zero_le_scaled_iff hunit h, lt_roundHalfUp_iff unit.bytes_pos, pow_zero, one_mul]

theorem places_shortest_scaled_one (h : size < 10 * unit.bytes) :
    places 1 (shortest (scaled size unit)) = roundHalfUp (10 * size) unit.bytes := by
  have hspacing : (Binary64.spacing (scaled size unit) : ℚ) * 10 ^ (1 + 1) < Binary64.one := by
    have hle := spacing_scaled_mul_le (e := 4) (by norm_num) (by norm_num) h.le
    have hten : (10 : ℚ) ^ (1 + 1) = 100 := by norm_num
    rw [hten]
    linarith [Binary64.cast_one_pos]
  apply eq_of_forall_lt_iff
  intro k
  rw [lt_places_shortest_iff (isDouble_scaled _ _) (by norm_num) hspacing,
    units_tie_one_le_scaled_iff h, lt_roundHalfUp_iff unit.bytes_pos, pow_one]

theorem places_zero_of_exponent_zero (n : ℕ) : places 0 ⟨n, 0⟩ = n := by
  simp [places, roundHalfUp_one]

theorem isWritable_of_lt_limit {n : ℕ} (h : n < Fixed.limit) : Text.isWritable n = true :=
  Text.isWritable_of_lt (by decide) h

theorem large_int {n : ℕ} (h : n < Fixed.limit) : large (.int n) = .ok (toString n) := by
  simp [large, fixed?, isWritable_of_lt_limit h, Fixed.ofCount, places_zero_of_exponent_zero, h,
    wholeText, Except.map]

theorem large_signed {negative : Bool} {u : ℕ} (h : places 0 (shortest u) < Fixed.limit) :
    large (.real (.finite negative u)) = .ok (wholeText ⟨negative, places 0 (shortest u)⟩) := by
  simp [large, fixed?, Fixed.ofCount, h, Except.map]

theorem small_signed (f : SizeFormat) {negative : Bool} {u : ℕ}
    (h : places 1 (shortest u) < Fixed.limit) : f.small (.real (.finite negative u)) =
      .ok (tenthsText f.mark ⟨negative, places 1 (shortest u)⟩) := by
  simp [small, fixed?, Fixed.ofCount, h, Except.map]

theorem large_finite {u : ℕ} (h : places 0 (shortest u) < Fixed.limit) :
    large (.real (.finite false u)) = .ok (toString (places 0 (shortest u))) := by
  simp [large_signed h, wholeText]

theorem small_finite (f : SizeFormat) {u : ℕ} (h : places 1 (shortest u) < Fixed.limit) :
    f.small (.real (.finite false u)) = .ok (toString (places 1 (shortest u) / 10) ++
      String.singleton f.mark ++ toString (places 1 (shortest u) % 10)) := by
  simp [small_signed f h, tenthsText]

theorem roundHalfUp_le_succ (n : ℕ) {d : ℕ} (hd : 0 < d) : roundHalfUp n d ≤ n + 1 := by
  by_contra hlt
  rw [not_le, lt_roundHalfUp_iff hd] at hlt
  nlinarith

/-- Below the limit of exactness the formatter writes the number of integer arithmetic. -/
theorem amount_eq_exactAmount (f : SizeFormat) (h : size < exactLimit) :
    f.amount size unit = .ok (exactAmount f.mark size unit) := by
  have hlimit : scaled size unit < Binary64.limit := by
    apply scaled_lt_limit (e := 54) (by norm_num)
    unfold exactLimit at h
    linarith [Nat.mul_le_mul_left (2 ^ 54) unit.bytes_pos]
  have hcount : 10 * size + 1 < Fixed.limit := by
    unfold exactLimit at h
    rw [Fixed.limit, pow_eq]
    omega
  unfold amount exactAmount
  dsimp only
  rw [if_neg hlimit.not_ge]
  by_cases hunit : unit = .byte
  · rw [if_pos hunit, if_pos hunit]
    exact large_int (by omega)
  · rw [if_neg hunit, if_neg hunit]
    by_cases hlarge : 20 * size < unit.bytes ∨ 10 * unit.bytes ≤ size
    · have hwhole := places_shortest_scaled_zero hunit h
      have hbound := roundHalfUp_le_succ size unit.bytes_pos
      rw [if_pos (by simpa [scaled_lt_smallLimit_iff, largeLimit_le_scaled_iff] using hlarge),
        if_pos hlarge, large_finite (by omega), hwhole, roundHalfUp]
    · have htenths := places_shortest_scaled_one (by omega : size < 10 * unit.bytes)
      have hbound := roundHalfUp_le_succ (10 * size) unit.bytes_pos
      rw [if_neg (by simpa [scaled_lt_smallLimit_iff, largeLimit_le_scaled_iff] using hlarge),
        if_neg hlarge, small_finite f (by omega), htenths, roundHalfUp]
      rw [show 2 * (10 * size) = 20 * size by ring]

/-- Below the limit of exactness the text of a size is that of integer arithmetic, in a given unit
as well as in the unit that suits it. -/
theorem formatIn_eq_exactText (f : SizeFormat) (size : ℤ) (hlow : 0 ≤ size)
    (hhigh : size < 2 ^ 24 * 10 ^ 9) :
    (∀ unit symbol, f.formatIn size unit symbol = .ok (exactText f.mark size.toNat unit symbol)) ∧
      ∃ unit, SizeUnit.select size = .ok unit ∧
        f.format size = .ok (exactText f.mark size.toNat unit true) := by
  have hgiven (unit : SizeUnit) (symbol : Bool) :
      f.formatIn size unit symbol = .ok (exactText f.mark size.toNat unit symbol) := by
    have hsize : size.toNat < exactLimit := by
      unfold exactLimit
      omega
    unfold formatIn
    rw [if_neg hlow.not_gt, amount_eq_exactAmount f hsize]
    rfl
  refine ⟨hgiven, SizeUnit.forSize size.toNat, ?_, hgiven _ true⟩
  unfold SizeUnit.select
  rw [if_neg hlow.not_gt]

/-- One byte below a tie near the limit, where half a spacing is almost `1 / unit`. -/
theorem formatIn_below_tie :
    (0 : ℤ) ≤ 16777215499999999 ∧ (16777215499999999 : ℤ) < 2 ^ 24 * 10 ^ 9 ∧
      SizeFormat.formatIn ⟨.english⟩ 16777215499999999 .gigabyte true = .ok "16777215 GB" := by
  have htext : exactText '.' 16777215499999999 .gigabyte true = "16777215 GB" := by decide
  refine ⟨by decide, by decide, ?_⟩
  rw [← htext]
  exact (formatIn_eq_exactText ⟨.english⟩ 16777215499999999 (by decide) (by decide)).1 _ _

end TransferReport.SizeFormat
