import Mathlib.Algebra.Order.Floor.Semifield
import Mathlib.Data.Rat.Floor
import TransferReport.Proofs.Size.ExactText

/-!
# The text of a double

A double is cut through its shortest decimal, yet up to `2 ^ 53` the whole number shown is the
exact value rounded half away from zero.  The tenths shown below `10 ^ 13` change exactly at the
doubles nearest to the odd twentieths: such a double is printed as the tie and rounded up, even
where it lies below the tie.  The sign shown is the sign bit.
-/

namespace TransferReport.Number.Binary64

/-- Finite bits hold a sign and a double. -/
theorem sign_and_units_of_ofBits {bits : UInt64} {negative : Bool} {units : ℕ}
    (h : ofBits bits = finite negative units) :
    (negative = true ↔ 2 ^ 63 ≤ bits.toNat) ∧ IsDouble units := by
  have hbits := bits.toNat_lt
  have hfraction : bits.toNat % 2 ^ 52 < 2 ^ 52 := Nat.mod_lt _ (Nat.two_pow_pos 52)
  have hsign : bits.toNat / 2 ^ 63 = 1 ↔ 2 ^ 63 ≤ bits.toNat := by omega
  unfold ofBits at h
  simp only [pow_eq] at h
  split at h
  · split at h <;> cases h
  · split at h
    · obtain ⟨rfl, rfl⟩ := finite.inj h
      refine ⟨by rw [decide_eq_true_iff, hsign], ?_⟩
      have hdouble : IsDouble (bits.toNat % 2 ^ 52 * 2 ^ 0) := isDouble_mul_two_pow (by omega)
      rwa [pow_zero, mul_one] at hdouble
    · obtain ⟨rfl, rfl⟩ := finite.inj h
      exact ⟨by rw [decide_eq_true_iff, hsign], isDouble_mul_two_pow (by omega)⟩

end TransferReport.Number.Binary64

namespace TransferReport.SizeFormat

open Number Number.Binary64 Number.Decimal

variable {u n : ℕ}

/-- Rounding half up takes the floor of the quotient and a half. -/
theorem roundHalfUp_eq_floor (n : ℕ) {d : ℕ} (hd : 0 < d) :
    roundHalfUp n d = ⌊(n / d : ℚ) + 1 / 2⌋₊ := by
  have hd' : (0 : ℚ) < d := by exact_mod_cast hd
  have hquotient : (n / d : ℚ) + 1 / 2 = (2 * n + d : ℕ) / (2 * d : ℕ) := by
    push_cast
    field_simp
  rw [hquotient, Nat.floor_div_eq_div, roundHalfUp]

theorem places_zero_shortest_lt_limit (hu : IsDouble u) (hle : u ≤ 2 ^ 53 * one) :
    places 0 (shortest u) < Fixed.limit := by
  have hone := Binary64.one_pos
  have hbound : roundHalfUp u one ≤ 2 ^ 53 := by
    by_contra hlt
    rw [not_le, lt_roundHalfUp_iff hone] at hlt
    linarith
  rw [places_zero_shortest hu hle, Fixed.limit, pow_eq]
  omega

/-- The double nearest to so many twentieths. -/
def twentieths (n : ℕ) : ℕ := nearest (n * one) 20

/-- The double lies between the doubles nearest to the two ties around so many tenths. -/
def NearestTenths (units n : ℕ) : Prop :=
  (n = 0 ∨ twentieths (2 * n - 1) ≤ units) ∧ units < twentieths (2 * n + 1)

theorem units_tie_one (k : ℕ) : (tie 1 k).units = twentieths (2 * k + 1) := by
  have hexponent : (tie 1 k).exponent = -((2 : ℕ) : ℤ) := rfl
  have hcoefficient : (tie 1 k).coefficient = (2 * k + 1) * 5 := rfl
  rw [units_eq, twentieths, hexponent, hcoefficient, neg_neg, Int.toNat_natCast,
    Int.toNat_neg_natCast]
  apply nearest_congr (by positivity) (by norm_num)
  ring

theorem spacing_mul_hundred_lt (h : u < 10 ^ 13 * one) : (spacing u : ℚ) * 10 ^ (1 + 1) < one := by
  have hone := cast_one_pos
  have hlt : u < 2 ^ 44 * one := h.trans (Nat.mul_lt_mul_of_pos_right (by norm_num) Binary64.one_pos)
  have hspacing : (spacing u : ℚ) * 2 ^ 53 ≤ 2 ^ 44 * one := by
    exact_mod_cast spacing_mul_le_one hlt
  have hten : (10 : ℚ) ^ (1 + 1) = 100 := by norm_num
  rw [hten]
  linarith

theorem lt_places_one_iff {k : ℕ} (hu : IsDouble u) (h : u < 10 ^ 13 * one) :
    k < places 1 (shortest u) ↔ twentieths (2 * k + 1) ≤ u := by
  rw [lt_places_shortest_iff hu (by norm_num) (spacing_mul_hundred_lt h), units_tie_one]

/-- The tenths shown are the only ones between whose ties the double lies. -/
theorem nearestTenths_iff (hu : IsDouble u) (h : u < 10 ^ 13 * one) :
    NearestTenths u n ↔ n = places 1 (shortest u) := by
  unfold NearestTenths
  rw [← not_le, ← lt_places_one_iff hu h]
  cases n with
  | zero => simp [Nat.pos_iff_ne_zero, eq_comm]
  | succ k =>
    rw [show 2 * (k + 1) - 1 = 2 * k + 1 by omega, ← lt_places_one_iff hu h]
    omega

theorem places_one_shortest_lt_limit (hu : IsDouble u) (h : u < 10 ^ 13 * one) :
    places 1 (shortest u) < Fixed.limit := by
  have hbound : places 1 (shortest u) ≤ 10 ^ 14 := by
    by_contra hlt
    rw [not_le, lt_places_one_iff hu h, ← units_tie_one] at hlt
    have hreached : 10 ^ 13 * one ≤ (tie 1 (10 ^ 14)).units := by
      apply le_units (isDouble_mul_one (by norm_num))
      rw [value_tie]
      push_cast
      linarith [cast_one_pos]
    omega
  rw [Fixed.limit, pow_eq]
  omega

/-- A double is printed as a tie of the tenths exactly if it is the double nearest to that tie. -/
theorem value_shortest_eq_iff {k : ℕ} (hu : IsDouble u) (h : u < 10 ^ 13 * one) :
    (shortest u).value = (2 * k + 1) / 20 ↔ u = twentieths (2 * k + 1) := by
  have hvalue : (tie 1 k).value = (2 * k + 1) / 20 := by
    rw [value_tie]
    norm_num
  rw [← hvalue, ← units_tie_one]
  constructor
  · intro heq
    rw [← shortest_units hu]
    exact le_antisymm (units_mono heq.le) (units_mono heq.ge)
  · intro heq
    exact value_shortest_tie hu (by norm_num) (spacing_mul_hundred_lt h) heq.symm

/-- A double that is nearest to a tie is rounded up. -/
theorem places_one_of_tie {k : ℕ} (hu : IsDouble u) (h : u < 10 ^ 13 * one)
    (htie : u = twentieths (2 * k + 1)) : places 1 (shortest u) = k + 1 := by
  apply le_antisymm
  · by_contra hlt
    rw [not_le, lt_places_iff, value_tie, (value_shortest_eq_iff hu h).2 htie] at hlt
    push_cast at hlt
    linarith
  · exact (lt_places_one_iff hu h).2 htie.ge

/-- The sign shown is the sign bit.  Up to `2 ^ 53` the whole number shown is the exact value,
rounded with ties away from zero.  Below `10 ^ 13` the tenths shown are those between whose ties
the double lies, and a double that is printed as a tie is rounded up. -/
theorem double_rendered (f : SizeFormat) {bits : UInt64} {negative : Bool} {units : ℕ}
    (hx : Binary64.ofBits bits = .finite negative units) :
    (negative = true ↔ 2 ^ 63 ≤ bits.toNat) ∧
      (units ≤ 2 ^ 53 * one →
        large (.real (Binary64.ofBits bits)) =
          .ok ((if negative then "-" else "") ++ toString ⌊(units / one : ℚ) + 1 / 2⌋₊)) ∧
      (units < 10 ^ 13 * one →
        ∃ n, NearestTenths units n ∧ (∀ m, NearestTenths units m → m = n) ∧
          f.small (.real (Binary64.ofBits bits)) =
            .ok ((if negative then "-" else "") ++ toString (n / 10) ++ String.singleton f.mark ++
              toString (n % 10)) ∧
          ∀ k : ℕ, ((shortest units).value = (2 * k + 1) / 20 ↔ units = twentieths (2 * k + 1)) ∧
            (units = twentieths (2 * k + 1) → n = k + 1)) := by
  obtain ⟨hsign, hdouble⟩ := sign_and_units_of_ofBits hx
  rw [hx]
  refine ⟨hsign, ?_, ?_⟩
  · intro hle
    rw [large_signed (places_zero_shortest_lt_limit hdouble hle), wholeText,
      places_zero_shortest hdouble hle, roundHalfUp_eq_floor _ Binary64.one_pos]
  · intro hlt
    refine ⟨places 1 (shortest units), (nearestTenths_iff hdouble hlt).2 rfl, ?_, ?_, ?_⟩
    · intro m hm
      exact (nearestTenths_iff hdouble hlt).1 hm
    · rw [small_signed f (places_one_shortest_lt_limit hdouble hlt), tenthsText]
    · intro k
      exact ⟨value_shortest_eq_iff hdouble hlt, places_one_of_tie hdouble hlt⟩

/-- The double printed as -9.95 lies above -9.95, and yet it is shown as -10.0. -/
theorem double_rendered_belowTie :
    ∃ units, Binary64.ofBits 0xC023E66666666666 = .finite true units ∧
      20 * units < 199 * one ∧
      large (.real (Binary64.ofBits 0xC023E66666666666)) = .ok "-10" ∧
      SizeFormat.small ⟨.english⟩ (.real (Binary64.ofBits 0xC023E66666666666)) = .ok "-10.0" := by
  have hx : Binary64.ofBits 0xC023E66666666666 =
      .finite true ((2 ^ 52 + 0x3E66666666666) * 2 ^ 1025) := by
    decide +kernel
  have hbelow : 20 * ((2 ^ 52 + 0x3E66666666666) * 2 ^ 1025) < 199 * one := by
    decide +kernel
  have hle : (2 ^ 52 + 0x3E66666666666) * 2 ^ 1025 ≤ 2 ^ 53 * one := by
    decide +kernel
  have hlt : (2 ^ 52 + 0x3E66666666666) * 2 ^ 1025 < 10 ^ 13 * one := by
    decide +kernel
  have hwhole : roundHalfUp ((2 ^ 52 + 0x3E66666666666) * 2 ^ 1025) one = 10 := by
    decide +kernel
  have htie : (2 ^ 52 + 0x3E66666666666) * 2 ^ 1025 = twentieths (2 * 99 + 1) := by
    decide +kernel
  obtain ⟨-, hlarge, hsmall⟩ := double_rendered ⟨.english⟩ hx
  obtain ⟨n, -, -, htenths, hties⟩ := hsmall hlt
  refine ⟨_, hx, hbelow, ?_, ?_⟩
  · rw [hlarge hle, ← roundHalfUp_eq_floor _ Binary64.one_pos, hwhole]
    rfl
  · rw [htenths, (hties 99).2 htie]
    rfl

end TransferReport.SizeFormat
