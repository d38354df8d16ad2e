import Mathlib.Data.Nat.Log
import Mathlib.Data.Rat.Cast.Order
import Mathlib.Tactic.FieldSimp
import Mathlib.Tactic.Linarith
import Mathlib.Tactic.Ring
import TransferReport.Number.Shortest

/-!
# The nearest double

`nearest n d` is monotone in the exact quotient `n / d`, leaves doubles alone, and is at most half a
spacing away from the quotient.  Hence it depends on the quotient alone, its result is always a
double, and two quotients more than a spacing apart keep their strict order.
-/

namespace TransferReport.Number

/-- A quotient half way between two neighbours goes to the even one. -/
theorem roundHalfEven_half {n d k : ℕ} (hd : 0 < d) (h : 2 * n = 2 * d * k + d) :
    roundHalfEven n d = k + k % 2 := by
  have hfloor : n / d = k := by
    apply Nat.div_eq_of_lt_le
    · nlinarith
    · nlinarith
  have hrest : 2 * (n % d) = d := by
    have hn := Nat.div_add_mod n d
    rw [hfloor] at hn
    nlinarith
  unfold roundHalfEven
  rw [hfloor, hrest]
  simp

theorem roundHalfEven_mul_right (k : ℕ) {d : ℕ} (hd : 0 < d) : roundHalfEven (k * d) d = k := by
  simp [roundHalfEven, Nat.mul_div_cancel k hd, Nat.mul_mod_left, hd]

/-- Rounding a larger quotient gives no smaller number. -/
theorem roundHalfEven_mono {n d n' d' : ℕ} (hd : 0 < d) (hd' : 0 < d') (h : n * d' ≤ n' * d) :
    roundHalfEven n d ≤ roundHalfEven n' d' := by
  have habove := roundHalfEven_le n d
  have hbelow := le_roundHalfEven n' hd'
  by_contra hlt
  rw [not_le] at hlt
  have hscaled : d * d' * roundHalfEven n d ≤ d * d' * (roundHalfEven n' d' + 1) := by
    nlinarith
  have hnext : roundHalfEven n d = roundHalfEven n' d' + 1 :=
    le_antisymm (Nat.le_of_mul_le_mul_left hscaled (Nat.mul_pos hd hd')) hlt
  -- both quotients are then the half between the two neighbours, so both go to the even one
  have hhalf : 2 * n = 2 * d * roundHalfEven n' d' + d := by
    apply Nat.le_antisymm
    · apply Nat.le_of_mul_le_mul_right _ hd'
      nlinarith
    · rw [hnext] at habove
      linarith
  have hhalf' : 2 * n' = 2 * d' * roundHalfEven n' d' + d' := by
    apply Nat.le_antisymm hbelow
    apply Nat.le_of_mul_le_mul_right _ hd
    nlinarith
  have heven := roundHalfEven_half hd hhalf
  have heven' := roundHalfEven_half hd' hhalf'
  omega

theorem pow_eq (b n : ℕ) : Nat.pow b n = b ^ n := rfl

namespace Binary64

theorem one_eq : one = 2 ^ 1074 := by
  unfold one
  generalize 1074 = n
  exact pow_eq 2 n

theorem limit_eq : limit = 2 ^ 2098 := by
  unfold limit
  generalize 2098 = n
  exact pow_eq 2 n

theorem one_eq_two_pow : ∃ k, one = 2 ^ (k + 1) := by
  obtain ⟨k, hk⟩ : ∃ k, 1074 = k + 1 := ⟨1073, rfl⟩
  exact ⟨k, hk ▸ one_eq⟩

theorem two_pow_lt_one {k : ℕ} (h : k < 1074) : 2 ^ k < one := by
  rw [one_eq]
  generalize 1074 = n at h ⊢
  exact Nat.pow_lt_pow_right (by decide) h

theorem two_pow_mul_one (k : ℕ) : 2 ^ k * one = 2 ^ (k + 1074) := by
  rw [one_eq, pow_add]

theorem two_pow_mul_one_lt_limit {k : ℕ} (h : k < 1024) : 2 ^ k * one < limit := by
  have hexponent : k + 1074 < 2098 := by omega
  rw [two_pow_mul_one, limit_eq]
  generalize 2098 = n at hexponent ⊢
  exact Nat.pow_lt_pow_right (by decide) hexponent

theorem one_pos : 0 < one := by
  obtain ⟨k, hk⟩ := one_eq_two_pow
  rw [hk]
  exact Nat.two_pow_pos _

theorem cast_one_pos : (0 : ℚ) < one := by
  exact_mod_cast one_pos

theorem spacing_eq (units : ℕ) : spacing units = 2 ^ (Nat.log2 units + 1 - 53) :=
  pow_eq 2 _

theorem spacing_pos (units : ℕ) : 0 < spacing units :=
  Nat.two_pow_pos _

theorem log2_le_log2 {u v : ℕ} (h : u ≤ v) : Nat.log2 u ≤ Nat.log2 v := by
  rw [Nat.log2_eq_log_two, Nat.log2_eq_log_two]
  exact Nat.log_mono_right h

theorem spacing_dvd_spacing {u v : ℕ} (h : Nat.log2 u ≤ Nat.log2 v) : spacing u ∣ spacing v :=
  Nat.pow_dvd_pow 2 (by omega)

theorem spacing_mono {u v : ℕ} (h : u ≤ v) : spacing u ≤ spacing v :=
  Nat.le_of_dvd (spacing_pos v) (spacing_dvd_spacing (log2_le_log2 h))

theorem spacing_dvd_two_pow {u k : ℕ} (h : Nat.log2 u ≤ k) : spacing u ∣ 2 ^ k :=
  Nat.pow_dvd_pow 2 (by omega)

theorem spacing_mul_le {u k : ℕ} (hk : 53 ≤ k) (h : u < 2 ^ k) : spacing u * 2 ^ 53 ≤ 2 ^ k := by
  have hlog : Nat.log2 u + 1 ≤ k := by
    rcases Nat.eq_zero_or_pos u with rfl | hu
    · simp
      omega
    · exact (Nat.log2_lt hu.ne').2 h
  calc
    spacing u * 2 ^ 53 = 2 ^ (Nat.log2 u + 1 - 53 + 53) := by rw [spacing_eq, pow_add]
    _ ≤ 2 ^ k := Nat.pow_le_pow_right (by decide) (by omega)

/-- Below `2 ^ k` neighbouring doubles are at most `2 ^ (k - 53)` apart. -/
theorem spacing_mul_le_one {u k : ℕ} (h : u < 2 ^ k * one) :
    spacing u * 2 ^ 53 ≤ 2 ^ k * one := by
  rw [two_pow_mul_one] at h ⊢
  exact spacing_mul_le (by omega) h

/-- From `2 ^ 52` units on doubles keep 53 digits, so they are relatively close. -/
theorem spacing_mul_two_pow_le {u : ℕ} (h : 2 ^ 52 ≤ u) : spacing u * 2 ^ 52 ≤ u := by
  have hne : u ≠ 0 := by omega
  have hlog : 52 ≤ Nat.log2 u := (Nat.le_log2 hne).2 h
  calc
    spacing u * 2 ^ 52 = 2 ^ (Nat.log2 u + 1 - 53 + 52) := by rw [spacing_eq, pow_add]
    _ = 2 ^ Nat.log2 u := congrArg (2 ^ ·) (by omega)
    _ ≤ u := Nat.log2_self_le hne

/-! ## Monotonicity -/

theorem floor_le_floor {n d n' d' : ℕ} (hd : 0 < d) (hd' : 0 < d') (h : n * d' ≤ n' * d) :
    n / d ≤ n' / d' := by
  rw [Nat.le_div_iff_mul_le hd']
  apply Nat.le_of_mul_le_mul_right _ hd
  nlinarith [Nat.div_mul_le_self n d]

theorem nearest_le_of_dvd {n d u : ℕ} (hd : 0 < d) (h : n ≤ u * d) (hu : spacing (n / d) ∣ u) :
    nearest n d ≤ u := by
  obtain ⟨k, rfl⟩ := hu
  have hround : roundHalfEven n (d * spacing (n / d)) ≤ k := by
    rw [← roundHalfEven_mul_right k Nat.zero_lt_one]
    apply roundHalfEven_mono (Nat.mul_pos hd (spacing_pos _)) Nat.zero_lt_one
    linarith
  calc
    nearest n d ≤ k * spacing (n / d) := Nat.mul_le_mul_right _ hround
    _ = spacing (n / d) * k := mul_comm _ _

theorem le_nearest_of_dvd {n d u : ℕ} (hd : 0 < d) (h : u * d ≤ n) (hu : spacing (n / d) ∣ u) :
    u ≤ nearest n d := by
  obtain ⟨k, rfl⟩ := hu
  have hround : k ≤ roundHalfEven n (d * spacing (n / d)) := by
    rw [← roundHalfEven_mul_right k Nat.zero_lt_one]
    apply roundHalfEven_mono Nat.zero_lt_one (Nat.mul_pos hd (spacing_pos _))
    linarith
  calc
    spacing (n / d) * k = k * spacing (n / d) := mul_comm _ _
    _ ≤ nearest n d := Nat.mul_le_mul_right _ hround

/-- The power of two above a quotient bounds its double. -/
theorem nearest_le_two_pow {n d k : ℕ} (hd : 0 < d) (h : Nat.log2 (n / d) < k) :
    nearest n d ≤ 2 ^ k := by
  apply nearest_le_of_dvd hd _ (spacing_dvd_two_pow h.le)
  have hlt : n / d < 2 ^ k := by
    calc
      n / d < 2 ^ (Nat.log2 (n / d) + 1) := Nat.lt_log2_self
      _ ≤ 2 ^ k := Nat.pow_le_pow_right (by decide) h
  exact ((Nat.div_lt_iff_lt_mul hd).1 hlt).le

theorem two_pow_le_nearest {n d : ℕ} (hd : 0 < d) (h : n / d ≠ 0) :
    2 ^ Nat.log2 (n / d) ≤ nearest n d := by
  apply le_nearest_of_dvd hd _ (spacing_dvd_two_pow le_rfl)
  exact (Nat.le_div_iff_mul_le hd).1 (Nat.log2_self_le h)

/-- A larger quotient has no smaller double. -/
theorem nearest_mono {n d n' d' : ℕ} (hd : 0 < d) (hd' : 0 < d') (h : n * d' ≤ n' * d) :
    nearest n d ≤ nearest n' d' := by
  rcases (log2_le_log2 (floor_le_floor hd hd' h)).eq_or_lt with heq | hlt
  · have hspacing : spacing (n / d) = spacing (n' / d') := by rw [spacing, spacing, heq]
    unfold nearest
    rw [hspacing]
    apply Nat.mul_le_mul_right
    apply roundHalfEven_mono (Nat.mul_pos hd (spacing_pos _)) (Nat.mul_pos hd' (spacing_pos _))
    nlinarith [spacing_pos (n' / d')]
  · have hne : n' / d' ≠ 0 := by
      rintro hzero
      rw [hzero] at hlt
      simp at hlt
    calc
      nearest n d ≤ 2 ^ Nat.log2 (n' / d') := nearest_le_two_pow hd hlt
      _ ≤ nearest n' d' := two_pow_le_nearest hd' hne

theorem nearest_mono_of_div_le {n d n' d' : ℕ} (hd : 0 < d) (hd' : 0 < d')
    (h : (n / d : ℚ) ≤ n' / d') : nearest n d ≤ nearest n' d' := by
  rw [div_le_div_iff₀ (by exact_mod_cast hd) (by exact_mod_cast hd')] at h
  exact nearest_mono hd hd' (by exact_mod_cast h)

/-- The nearest double depends on the quotient alone. -/
theorem nearest_congr {n d n' d' : ℕ} (hd : 0 < d) (hd' : 0 < d') (h : n * d' = n' * d) :
    nearest n d = nearest n' d' :=
  le_antisymm (nearest_mono hd hd' h.le) (nearest_mono hd' hd h.ge)

/-! ## Doubles -/

/-- So many units are a double: a multiple of the spacing of doubles there. -/
def IsDouble (units : ℕ) : Prop := spacing units ∣ units

theorem isDouble_nearest (n : ℕ) {d : ℕ} (hd : 0 < d) : IsDouble (nearest n d) := by
  rcases (nearest_le_two_pow hd (Nat.lt_succ_self (Nat.log2 (n / d)))).eq_or_lt with heq | hlt
  · rw [IsDouble, heq]
    exact spacing_dvd_two_pow (by simp)
  · have hlog : Nat.log2 (nearest n d) ≤ Nat.log2 (n / d) := by
      rcases Nat.eq_zero_or_pos (nearest n d) with hzero | hpos
      · simp [hzero]
      · exact Nat.le_of_lt_succ ((Nat.log2_lt hpos.ne').2 hlt)
    calc
      spacing (nearest n d) ∣ spacing (n / d) := spacing_dvd_spacing hlog
      _ ∣ nearest n d := Nat.dvd_mul_left _ _

/-- A double is the nearest double to itself. -/
theorem nearest_mul_self {u d : ℕ} (hd : 0 < d) (hu : IsDouble u) : nearest (u * d) d = u := by
  have hdvd : spacing (u * d / d) ∣ u := by rwa [Nat.mul_div_cancel u hd]
  exact le_antisymm (nearest_le_of_dvd hd le_rfl hdvd) (le_nearest_of_dvd hd le_rfl hdvd)

theorem nearest_self {u : ℕ} (hu : IsDouble u) : nearest u 1 = u := by
  have hself := nearest_mul_self Nat.zero_lt_one hu
  rwa [mul_one] at hself

/-- Rounding crosses no double. -/
theorem nearest_le_of_isDouble {n d u : ℕ} (hd : 0 < d) (hu : IsDouble u) (h : n ≤ u * d) :
    nearest n d ≤ u := by
  calc
    nearest n d ≤ nearest (u * d) d := nearest_mono hd hd (Nat.mul_le_mul_right d h)
    _ = u := nearest_mul_self hd hu

theorem le_nearest_of_isDouble {n d u : ℕ} (hd : 0 < d) (hu : IsDouble u) (h : u * d ≤ n) :
    u ≤ nearest n d := by
  calc
    u = nearest (u * d) d := (nearest_mul_self hd hu).symm
    _ ≤ nearest n d := nearest_mono hd hd (Nat.mul_le_mul_right d h)

theorem isDouble_mul_two_pow {m k : ℕ} (hm : m < 2 ^ 53) : IsDouble (m * 2 ^ k) := by
  rcases Nat.eq_zero_or_pos m with rfl | hpos
  · simp [IsDouble]
  · have hlt : m * 2 ^ k < 2 ^ (53 + k) := by
      rw [pow_add]
      exact Nat.mul_lt_mul_of_pos_right hm (Nat.two_pow_pos k)
    have hlog : Nat.log2 (m * 2 ^ k) < 53 + k :=
      (Nat.log2_lt (Nat.mul_pos hpos (Nat.two_pow_pos k)).ne').2 hlt
    exact (Nat.pow_dvd_pow 2 (by omega)).trans (Nat.dvd_mul_left _ _)

theorem isDouble_two_pow (k : ℕ) : IsDouble (2 ^ k) := by
  rw [← one_mul (2 ^ k)]
  exact isDouble_mul_two_pow (by norm_num)

theorem isDouble_mul_two_pow_of_le {m k : ℕ} (hm : m ≤ 2 ^ 53) : IsDouble (m * 2 ^ k) := by
  rcases hm.eq_or_lt with rfl | hlt
  · rw [← pow_add]
    exact isDouble_two_pow _
  · exact isDouble_mul_two_pow hlt

/-- An integer of at most 53 binary digits is a double, and so is `2 ^ 53`. -/
theorem isDouble_mul_one {m : ℕ} (hm : m ≤ 2 ^ 53) : IsDouble (m * one) := by
  rw [one_eq]
  exact isDouble_mul_two_pow_of_le hm

theorem isDouble_two_pow_mul_one (e : ℕ) : IsDouble (2 ^ e * one) := by
  rw [two_pow_mul_one]
  exact isDouble_two_pow _

/-- The nearest double is at most half a spacing away from the quotient. -/
theorem abs_nearest_sub_le (n : ℕ) {d : ℕ} (hd : 0 < d) :
    |(nearest n d : ℚ) - n / d| ≤ spacing (n / d) / 2 := by
  have hd' : (0 : ℚ) < d := by exact_mod_cast hd
  have habove := roundHalfEven_le n (d * spacing (n / d))
  have hbelow := le_roundHalfEven n (Nat.mul_pos hd (spacing_pos (n / d)))
  have habove' : (2 * (d * spacing (n / d)) * roundHalfEven n (d * spacing (n / d)) : ℚ) ≤
      2 * n + d * spacing (n / d) := by exact_mod_cast habove
  have hbelow' : (2 * n : ℚ) ≤ 2 * (d * spacing (n / d)) *
      roundHalfEven n (d * spacing (n / d)) + d * spacing (n / d) := by exact_mod_cast hbelow
  have hn : (n : ℚ) = n / d * d := by field_simp
  unfold nearest
  push_cast
  rw [abs_le]
  constructor
  · apply le_of_mul_le_mul_right _ hd'
    nlinarith
  · apply le_of_mul_le_mul_right _ hd'
    nlinarith

/-- Doubles near a quotient are no closer together than doubles near its double. -/
theorem spacing_le_spacing_nearest (n : ℕ) {d : ℕ} (hd : 0 < d) :
    spacing (n / d) ≤ spacing (nearest n d) := by
  apply Nat.le_of_dvd (spacing_pos _)
  apply spacing_dvd_spacing
  rcases Nat.eq_zero_or_pos (n / d) with hzero | hpos
  · simp [hzero]
  · have hle := log2_le_log2 (two_pow_le_nearest hd hpos.ne')
    rwa [Nat.log2_two_pow] at hle

/-- The same distance by the spacing at the double itself. -/
theorem abs_nearest_sub_le_spacing_nearest (n : ℕ) {d : ℕ} (hd : 0 < d) :
    |(nearest n d : ℚ) - n / d| ≤ spacing (nearest n d) / 2 := by
  have hspacing : (spacing (n / d) : ℚ) ≤ spacing (nearest n d) := by
    exact_mod_cast spacing_le_spacing_nearest n hd
  linarith [abs_nearest_sub_le n hd]

/-- A quotient whose double is no larger exceeds the other one by at most a spacing. -/
theorem sub_le_spacing {n d n' d' : ℕ} (hd : 0 < d) (hd' : 0 < d')
    (h : nearest n' d' ≤ nearest n d) : (n' / d' : ℚ) - n / d ≤ spacing (nearest n' d') := by
  have hd₀ : (0 : ℚ) < d := by exact_mod_cast hd
  have hd₀' : (0 : ℚ) < d' := by exact_mod_cast hd'
  have hcast : (nearest n' d' : ℚ) ≤ nearest n d := by exact_mod_cast h
  have hbelow := (abs_le.1 (abs_nearest_sub_le n hd)).2
  have habove := (abs_le.1 (abs_nearest_sub_le n' hd')).1
  have hspacing : (spacing (n' / d') : ℚ) ≤ spacing (nearest n' d') := by
    exact_mod_cast spacing_le_spacing_nearest n' hd'
  rcases le_total (n' / d' : ℚ) (n / d) with hle | hle
  · have : (0 : ℚ) ≤ spacing (nearest n' d') := by positivity
    linarith
  · rw [div_le_div_iff₀ hd₀ hd₀'] at hle
    have hfloor : (spacing (n / d) : ℚ) ≤ spacing (n' / d') := by
      exact_mod_cast spacing_mono (floor_le_floor hd hd' (by exact_mod_cast hle))
    linarith

end Binary64

end TransferReport.Number
