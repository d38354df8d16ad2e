import TransferReport.Proofs.Number.ShortestDecimal

/-!
# Ties

A decimal cut to a count of places is more than `k` last places exactly when it is at least the tie
between `k` and `k + 1`.  Where neighbouring doubles lie closer together than the tie's own grid,
the shortest decimal of a double reaches that tie exactly when the double reaches the double
nearest to it: the shortest decimal never comes to lie on the other side.
-/

namespace TransferReport.Number.Decimal

open Binary64

/-- The decimal half way between `k` and `k + 1` in the last of so many places. -/
def tie (places k : ℕ) : Decimal := ⟨(2 * k + 1) * 5, -((places + 1 : ℕ) : ℤ)⟩

theorem value_tie (p k : ℕ) : (tie p k).value = (2 * k + 1) / (2 * 10 ^ p) := by
  unfold value tie
  rw [zpow_neg, zpow_natCast, pow_succ]
  push_cast
  field_simp
  norm_num

theorem lt_roundHalfUp_iff {n d k : ℕ} (hd : 0 < d) :
    k < roundHalfUp n d ↔ (2 * k + 1) * d ≤ 2 * n := by
  rw [roundHalfUp, ← Nat.succ_le_iff, Nat.le_div_iff_mul_le (by omega)]
  rw [show k.succ * (2 * d) = (2 * k + 1) * d + d by rw [Nat.succ_eq_add_one]; ring]
  exact Nat.add_le_add_iff_right

/-- Rounding a quotient moves it by at most a half. -/
theorem abs_roundHalfUp_sub_le (n : ℕ) {d : ℕ} (hd : 0 < d) :
    |(roundHalfUp n d : ℚ) - n / d| ≤ 1 / 2 := by
  have hd' : (0 : ℚ) < d := by exact_mod_cast hd
  have habove : (2 * d * roundHalfUp n d : ℚ) ≤ 2 * n + d := by exact_mod_cast roundHalfUp_le n d
  have hbelow : (2 * n : ℚ) ≤ 2 * d * roundHalfUp n d + d := by
    exact_mod_cast (lt_roundHalfUp n hd).le
  have hn : (n : ℚ) = n / d * d := by field_simp
  rw [abs_le]
  constructor
  · apply le_of_mul_le_mul_right _ hd'
    linarith
  · apply le_of_mul_le_mul_right _ hd'
    linarith

theorem places_eq (p : ℕ) (x : Decimal) :
    places p x = roundHalfUp (x.coefficient * 10 ^ (x.exponent + p).toNat)
      (10 ^ (-(x.exponent + p)).toNat) :=
  rfl

/-- The quotient that is rounded when a decimal is cut. -/
theorem value_mul_ten_pow (p : ℕ) (x : Decimal) :
    x.value * 10 ^ p = ((x.coefficient * 10 ^ (x.exponent + p).toNat : ℕ) : ℚ) /
      (10 ^ (-(x.exponent + p)).toNat : ℕ) := by
  have hpow : (10 : ℚ) ^ x.exponent * 10 ^ p = 10 ^ (x.exponent + p) := by
    rw [zpow_add₀ (by norm_num), zpow_natCast]
  rw [value, mul_assoc, hpow, ten_zpow]
  push_cast
  ring

/-- Cutting a decimal moves it by at most half a last place. -/
theorem abs_places_sub_le (p : ℕ) (x : Decimal) :
    |(places p x : ℚ) - x.value * 10 ^ p| ≤ 1 / 2 := by
  rw [places_eq, value_mul_ten_pow]
  exact abs_roundHalfUp_sub_le _ (by positivity)

theorem lt_places_iff {p k : ℕ} {x : Decimal} :
    k < places p x ↔ (tie p k).value ≤ x.value := by
  rw [places_eq, lt_roundHalfUp_iff (by positivity), value_tie, div_le_iff₀ (by positivity)]
  rw [show x.value * (2 * 10 ^ p) = 2 * (x.value * 10 ^ p) by ring, value_mul_ten_pow,
    ← mul_div_assoc, le_div_iff₀ (by positivity)]
  exact_mod_cast Iff.rfl

/-- Cutting a larger decimal to a count of places gives no smaller number. -/
theorem places_mono {p : ℕ} {x y : Decimal} (h : x.value ≤ y.value) : places p x ≤ places p y := by
  apply le_of_forall_lt
  intro k hk
  rw [lt_places_iff] at hk ⊢
  exact hk.trans h

/-- On a grid no finer than `10 ^ -g` a decimal is a whole number of `10 ^ -g`. -/
theorem exists_value_eq {g : ℕ} {x : Decimal} (h : -(g : ℤ) ≤ x.exponent) :
    ∃ m : ℕ, x.value * 10 ^ g = m := by
  refine ⟨x.coefficient * 10 ^ (x.exponent + g).toNat, ?_⟩
  have hnonneg : (-(x.exponent + g)).toNat = 0 := by omega
  rw [value_mul_ten_pow, hnonneg]
  simp

/-- A decimal that reads back as no larger exceeds the other one by at most a spacing. -/
theorem value_sub_le {x y : Decimal} (h : y.units ≤ x.units) :
    (y.value - x.value) * one ≤ spacing y.units := by
  rw [sub_mul, value_mul_one, value_mul_one]
  exact sub_le_spacing (by positivity) (by positivity) h

/-- On a grid coarser than the spacing of doubles, reading keeps the strict order of decimals. -/
theorem value_le_of_units_le {g m n : ℕ} {x y : Decimal} (hx : x.value * 10 ^ g = m)
    (hy : y.value * 10 ^ g = n) (h : y.units ≤ x.units)
    (hspacing : (spacing y.units : ℚ) * 10 ^ g < one) : y.value ≤ x.value := by
  have hg : (0 : ℚ) < 10 ^ g := by positivity
  have hone := cast_one_pos
  have hclose : ((n : ℚ) - m) * one < 1 * one := by
    calc
      ((n : ℚ) - m) * one = (y.value - x.value) * one * 10 ^ g := by rw [← hx, ← hy]; ring
      _ ≤ spacing y.units * 10 ^ g := mul_le_mul_of_nonneg_right (value_sub_le h) hg.le
      _ < 1 * one := hspacing.trans_eq (one_mul _).symm
  have hstep : n ≤ m := by
    have hlt : (n : ℚ) - m < 1 := lt_of_mul_lt_mul_right hclose hone.le
    have hlt' : (n : ℚ) < (m + 1 : ℕ) := by
      push_cast
      linarith
    exact Nat.le_of_lt_succ (by exact_mod_cast hlt')
  apply le_of_mul_le_mul_right _ hg
  rw [hx, hy]
  exact_mod_cast hstep

/-- The shortest decimal of the double nearest to a tie is that tie. -/
theorem value_shortest_tie {p k u : ℕ} (hu : IsDouble u) (hp : p < 324)
    (hspacing : (spacing u : ℚ) * 10 ^ (p + 1) < one) (htie : (tie p k).units = u) :
    (shortest u).value = (tie p k).value := by
  have hread := shortest_units hu
  have hgrid : -((p + 1 : ℕ) : ℤ) ≤ (shortest u).exponent := by
    apply exponent_le_shortest hu htie
    rw [mem_gridExponents]
    dsimp only [tie]
    omega
  obtain ⟨m, hm⟩ := exists_value_eq hgrid
  obtain ⟨n, hn⟩ := exists_value_eq (x := tie p k) le_rfl
  apply le_antisymm
  · exact value_le_of_units_le hn hm (by rw [htie, hread]) (by rwa [hread])
  · exact value_le_of_units_le hm hn (by rw [htie, hread]) (by rwa [htie])

/-- The shortest decimal reaches a tie exactly when the double reaches the tie's double. -/
theorem lt_places_shortest_iff {p k u : ℕ} (hu : IsDouble u) (hp : p < 324)
    (hspacing : (spacing u : ℚ) * 10 ^ (p + 1) < one) :
    k < places p (shortest u) ↔ (tie p k).units ≤ u := by
  have hread := shortest_units hu
  rw [lt_places_iff]
  constructor
  · intro h
    rw [← hread]
    exact units_mono h
  · intro h
    by_contra hlt
    rw [not_le] at hlt
    -- the tie then reads back as well, so the shortest decimal is the tie
    have htie : (tie p k).units = u := by
      apply le_antisymm h
      rw [← hread]
      exact units_mono hlt.le
    exact hlt.ne (value_shortest_tie hu hp hspacing htie)

end TransferReport.Number.Decimal
