import Mathlib.Algebra.Order.Field.Power
import TransferReport.Proofs.Number.Nearest

/-!
# The shortest decimal reads back

The shortest decimal of a double reads back as that double, and no decimal on a coarser grid does.
Where doubles lie close together, a decimal rounded half up therefore changes its last place
exactly at the doubles nearest to the ties.
-/

namespace TransferReport.Number

namespace Decimal

open Binary64

/-- The exact value of a decimal. -/
def value (x : Decimal) : ℚ := x.coefficient * (10 : ℚ) ^ x.exponent

theorem units_eq (x : Decimal) :
    x.units = nearest (x.coefficient * 10 ^ x.exponent.toNat * one) (10 ^ (-x.exponent).toNat) :=
  rfl

theorem ten_zpow (e : ℤ) : (10 : ℚ) ^ e = (10 ^ e.toNat : ℕ) / (10 ^ (-e).toNat : ℕ) := by
  have he : e = (e.toNat : ℤ) - ((-e).toNat : ℤ) := by omega
  conv_lhs => rw [he]
  rw [zpow_sub₀ (by norm_num), zpow_natCast, zpow_natCast]
  push_cast
  rfl

/-- The quotient that is rounded when a decimal is read. -/
theorem value_mul_one (x : Decimal) :
    x.value * one = ((x.coefficient * 10 ^ x.exponent.toNat * one : ℕ) : ℚ) /
      (10 ^ (-x.exponent).toNat : ℕ) := by
  rw [value, ten_zpow]
  push_cast
  ring

theorem units_mono {x y : Decimal} (h : x.value ≤ y.value) : x.units ≤ y.units := by
  rw [units_eq, units_eq]
  apply nearest_mono_of_div_le (by positivity) (by positivity)
  rw [← value_mul_one, ← value_mul_one]
  exact mul_le_mul_of_nonneg_right h cast_one_pos.le

theorem units_le {x : Decimal} {u : ℕ} (hu : IsDouble u) (h : x.value * one ≤ u) : x.units ≤ u := by
  rw [units_eq, ← nearest_mul_self Nat.zero_lt_one hu]
  apply nearest_mono_of_div_le (by positivity) Nat.zero_lt_one
  rw [← value_mul_one, Nat.mul_one, Nat.cast_one, div_one]
  exact h

theorem le_units {x : Decimal} {u : ℕ} (hu : IsDouble u) (h : u ≤ x.value * one) : u ≤ x.units := by
  rw [units_eq, ← nearest_mul_self Nat.zero_lt_one hu]
  apply nearest_mono_of_div_le Nat.zero_lt_one (by positivity)
  rw [← value_mul_one, Nat.mul_one, Nat.cast_one, div_one]
  exact h

/-- A decimal that is just a double reads back as it. -/
theorem units_of_exact {x : Decimal} {u : ℕ} (hu : IsDouble u) (h : x.value * one = u) :
    x.units = u :=
  le_antisymm (units_le hu h.le) (le_units hu h.ge)

/-- A decimal is at most half a spacing away from the double that it is read as. -/
theorem abs_units_sub_le (x : Decimal) :
    |(x.units : ℚ) - x.value * one| ≤ spacing x.units / 2 := by
  rw [value_mul_one, units_eq]
  exact abs_nearest_sub_le_spacing_nearest _ (by positivity)

/-- A decimal of the grid is at most the double when it is at most the lower neighbour. -/
theorem value_mul_one_le_iff {k u : ℕ} {e : ℤ} :
    (⟨k, e⟩ : Decimal).value * one ≤ u ↔ k ≤ u * 10 ^ (-e).toNat / (one * 10 ^ e.toNat) := by
  have hone := one_pos
  rw [value_mul_one, div_le_iff₀ (by positivity), Nat.le_div_iff_mul_le (by positivity)]
  dsimp only
  rw [show k * (one * 10 ^ e.toNat) = k * 10 ^ e.toNat * one by ring]
  exact_mod_cast Iff.rfl

theorem value_le_value {k l : ℕ} {e : ℤ} (h : k ≤ l) :
    (⟨k, e⟩ : Decimal).value ≤ (⟨l, e⟩ : Decimal).value := by
  apply mul_le_mul_of_nonneg_right
  · exact_mod_cast h
  · positivity

/-- If any decimal of a grid reads back, the search finds one on that grid. -/
theorem isSome_onGrid? {u k : ℕ} {e : ℤ} (hu : IsDouble u) (h : (⟨k, e⟩ : Decimal).units = u) :
    (onGrid? u e).isSome := by
  let lower := u * 10 ^ (-e).toNat / (one * 10 ^ e.toNat)
  have hneighbour : (⟨lower, e⟩ : Decimal).units = u ∨ (⟨lower + 1, e⟩ : Decimal).units = u := by
    rcases Nat.lt_or_ge lower k with hk | hk
    · right
      apply le_antisymm
      · exact (units_mono (value_le_value hk)).trans h.le
      · apply le_units hu
        apply le_of_not_ge
        intro hle
        have := value_mul_one_le_iff.1 hle
        omega
    · left
      apply le_antisymm
      · exact units_le hu (value_mul_one_le_iff.2 le_rfl)
      · exact h.ge.trans (units_mono (value_le_value hk))
  unfold onGrid?
  simp only [pow_eq]
  split
  · split <;> rfl
  · rename_i hlower
    rw [if_pos (hneighbour.resolve_left hlower)]
    rfl

theorem roundHalfEven_eq_or (n d : ℕ) :
    roundHalfEven n d = n / d ∨ roundHalfEven n d = n / d + 1 := by
  unfold roundHalfEven
  dsimp only
  split
  · exact .inl rfl
  · split
    · rcases Nat.mod_two_eq_zero_or_one (n / d) with h | h <;> simp [h]
    · exact .inr rfl

/-- What the search finds on a grid reads back. -/
theorem onGrid?_eq_some {u : ℕ} {e : ℤ} {x : Decimal} (h : onGrid? u e = some x) :
    x.exponent = e ∧ x.units = u := by
  unfold onGrid? at h
  simp only [pow_eq] at h
  generalize u * 10 ^ (-e).toNat = n at h
  generalize one * 10 ^ e.toNat = d at h
  split at h
  · rename_i hbelow
    split at h
    · rename_i habove
      cases h
      refine ⟨rfl, ?_⟩
      rcases roundHalfEven_eq_or n d with heq | heq
      · rw [heq]
        exact hbelow
      · rw [heq]
        exact habove
    · cases h
      exact ⟨rfl, hbelow⟩
  · split at h
    · rename_i habove
      cases h
      exact ⟨rfl, habove⟩
    · cases h

theorem units_mul_five_pow (u n : ℕ) (h : one = 2 ^ n) :
    units ⟨u * 5 ^ n, -(n : ℤ)⟩ = nearest (u * 10 ^ n) (10 ^ n) := by
  have hten : 5 * 2 = 10 := rfl
  have hexact : u * 5 ^ n * 2 ^ n = u * 10 ^ n := by
    rw [mul_assoc, ← mul_pow, hten]
  rw [units_eq]
  dsimp only
  rw [neg_neg, Int.toNat_natCast, Int.toNat_neg_natCast, h, pow_zero, mul_one, hexact]

/-- Reading the exact decimal of so many units rounds a quotient that is just that many. -/
theorem units_exact (u : ℕ) : ∃ d, 0 < d ∧ (exact u).units = nearest (u * d) d := by
  have hone := one_eq
  have hexponent : (-1074 : ℤ) = -((1074 : ℕ) : ℤ) := rfl
  unfold exact
  rw [hexponent]
  generalize 1074 = n at hone ⊢
  exact ⟨10 ^ n, Nat.pow_pos (by decide), units_mul_five_pow u n hone⟩

/-- The shortest decimal reads back. -/
theorem shortest_units {u : ℕ} (hu : IsDouble u) : (shortest u).units = u := by
  unfold shortest
  cases hfound : (gridExponents u).findSome? (onGrid? u) with
  | none =>
    obtain ⟨d, hd, hexact⟩ := units_exact u
    exact hexact.trans (nearest_mul_self hd hu)
  | some x =>
    obtain ⟨e, -, he⟩ := List.exists_of_findSome?_eq_some hfound
    exact (onGrid?_eq_some he).2

theorem mem_gridExponents {u : ℕ} {e : ℤ} :
    e ∈ gridExponents u ↔ -325 < e ∧ e ≤ digitCount (u / one) := by
  unfold gridExponents
  simp only [List.mem_map, List.mem_range]
  constructor
  · rintro ⟨i, hi, rfl⟩
    omega
  · intro he
    exact ⟨(digitCount (u / one) - e).toNat, by omega, by omega⟩

theorem pairwise_gridExponents (u : ℕ) : (gridExponents u).Pairwise (· > ·) := by
  unfold gridExponents
  rw [List.pairwise_map]
  apply List.pairwise_lt_range.imp
  intro i j hij
  omega

/-- The search finds the shortest decimal if any decimal of a tried grid reads back. -/
theorem findSome?_onGrid? {u : ℕ} (hu : IsDouble u) {x : Decimal} (hx : x.units = u)
    (hgrid : x.exponent ∈ gridExponents u) :
    (gridExponents u).findSome? (onGrid? u) = some (shortest u) := by
  have hsome : (onGrid? u x.exponent).isSome := isSome_onGrid? (k := x.coefficient) hu hx
  have hfind : ((gridExponents u).findSome? (onGrid? u)).isSome := by
    rw [List.findSome?_isSome_iff]
    exact ⟨x.exponent, hgrid, hsome⟩
  obtain ⟨y, hy⟩ := Option.isSome_iff_exists.1 hfind
  rw [shortest, hy]
  rfl

/-- No grid coarser than that of the shortest decimal has a decimal that reads back. -/
theorem exponent_le_shortest {u : ℕ} (hu : IsDouble u) {x : Decimal} (hx : x.units = u)
    (hgrid : x.exponent ∈ gridExponents u) : x.exponent ≤ (shortest u).exponent := by
  have hsome : (onGrid? u x.exponent).isSome := isSome_onGrid? (k := x.coefficient) hu hx
  obtain ⟨before, e, behind, hsplit, he, hbefore⟩ :=
    List.findSome?_eq_some_iff.1 (findSome?_onGrid? hu hx hgrid)
  have hshortest : (shortest u).exponent = e := (onGrid?_eq_some he).1
  have hpairwise := pairwise_gridExponents u
  rw [hsplit] at hgrid hpairwise
  rw [hshortest]
  rcases List.mem_append.1 hgrid with hmem | hmem
  · rw [hbefore _ hmem] at hsome
    cases hsome
  · rcases List.mem_cons.1 hmem with heq | hmem
    · exact heq.le
    · exact ((List.pairwise_cons.1 (List.pairwise_append.1 hpairwise).2.1).1 _ hmem).le

/-- A larger double has no smaller shortest decimal. -/
theorem value_shortest_mono {u v : ℕ} (hu : IsDouble u) (hv : IsDouble v) (h : u ≤ v) :
    (shortest u).value ≤ (shortest v).value := by
  by_contra hlt
  rw [not_le] at hlt
  have hback : v ≤ u := by
    rw [← shortest_units hu, ← shortest_units hv]
    exact units_mono hlt.le
  rw [le_antisymm h hback] at hlt
  exact hlt.false

end Decimal

end TransferReport.Number
