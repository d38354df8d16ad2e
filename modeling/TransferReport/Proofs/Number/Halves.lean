import TransferReport.Proofs.Number.Ties

/-!
# Halves

Up to `2 ^ 53` the shortest decimal of a double has just as many whole halves as the double itself.
Where doubles are less than a tenth apart the ties would show it, but above `2 ^ 49` they are not.
Instead, a double that is a count of halves is its own shortest decimal: on the grid of tenths the
search meets it, and on a coarser grid nothing else is near enough.  Any other double lies between
two counts of halves that are doubles themselves, and so does its shortest decimal.  Hence a double
rounds to the same integer as its shortest decimal.
-/

namespace TransferReport.Number.Decimal

open Binary64

variable {u m : ℕ}

theorem eq_of_mul_one_eq {n : ℕ} (h : m * one = n * one) : m = n :=
  Nat.eq_of_mul_eq_mul_right Binary64.one_pos h

/-- A count of halves on the grid of tenths. -/
def halves (m : ℕ) : Decimal := ⟨m * 5, -1⟩

theorem tie_zero (k : ℕ) : tie 0 k = halves (2 * k + 1) := rfl

theorem value_halves (m : ℕ) : (halves m).value = m / 2 := by
  unfold value halves
  rw [zpow_neg_one]
  push_cast
  ring

theorem value_halves_mul_one (h : 2 * u = m * one) : (halves m).value * one = u := by
  have hcast : (2 * u : ℚ) = m * one := by exact_mod_cast h
  rw [value_halves]
  linarith

/-- Up to `2 ^ 52` a count of halves reads back exactly. -/
theorem units_halves (hm : m ≤ 2 ^ 53) : 2 * (halves m).units = m * one := by
  obtain ⟨k, hk⟩ := one_eq_two_pow
  have hwhole : 2 * (m * 2 ^ k) = m * one := by
    rw [hk, pow_succ]
    ring
  rw [units_of_exact (isDouble_mul_two_pow_of_le hm) (value_halves_mul_one hwhole)]
  exact hwhole

/-- A double of `2 ^ 52` or more is an integer. -/
theorem one_dvd_of_le (hu : IsDouble u) (h : 2 ^ 52 * one ≤ u) : one ∣ u := by
  obtain ⟨k, hk⟩ := one_eq_two_pow
  rw [hk, ← pow_add] at h
  have hne : u ≠ 0 := (h.trans_lt' (Nat.two_pow_pos _)).ne'
  have hlog : 52 + (k + 1) ≤ Nat.log2 u := (Nat.le_log2 hne).2 h
  calc
    one = 2 ^ (k + 1) := hk
    _ ∣ 2 ^ (Nat.log2 u + 1 - 53) := Nat.pow_dvd_pow 2 (by omega)
    _ = spacing u := (spacing_eq u).symm
    _ ∣ u := hu

theorem lt_of_not_dvd (hu : IsDouble u) (h : ¬ one ∣ u) : u < 2 ^ 52 * one := by
  by_contra hge
  exact h (one_dvd_of_le hu (not_lt.1 hge))

/-- Two halves make a whole. -/
theorem even_of_dvd (h : 2 * u = m * one) (hdvd : one ∣ u) : Even m := by
  obtain ⟨i, hi⟩ := hdvd
  have hm : m * one = 2 * i * one := by linarith
  exact ⟨i, (eq_of_mul_one_eq hm).trans (two_mul i)⟩

/-- A decimal that is just the double is what the search finds on its grid. -/
theorem onGrid?_of_exact {x : Decimal} (hu : IsDouble u) (h : x.value * one = u) :
    onGrid? u x.exponent = some x := by
  have hcross :
      u * 10 ^ (-x.exponent).toNat = x.coefficient * (one * 10 ^ x.exponent.toNat) := by
    rw [value_mul_one, div_eq_iff (by positivity)] at h
    have hcast : x.coefficient * 10 ^ x.exponent.toNat * one = u * 10 ^ (-x.exponent).toNat := by
      exact_mod_cast h
    rw [← hcast]
    ring
  have hpos : 0 < one * 10 ^ x.exponent.toNat :=
    Nat.mul_pos Binary64.one_pos (Nat.pow_pos (by decide))
  unfold onGrid?
  simp only [pow_eq]
  rw [hcross, Nat.mul_div_cancel _ hpos, roundHalfEven_mul_right _ hpos, if_pos (units_of_exact hu h),
    ite_self]

/-- On its own grid the search finds the shortest decimal. -/
theorem onGrid?_shortest {x : Decimal} (hu : IsDouble u) (hx : x.units = u)
    (hgrid : x.exponent ∈ gridExponents u) :
    onGrid? u (shortest u).exponent = some (shortest u) := by
  obtain ⟨e, -, he⟩ := List.exists_of_findSome?_eq_some (findSome?_onGrid? hu hx hgrid)
  rwa [(onGrid?_eq_some he).1]

/-- An integer that is nearer than the next double to a count of halves is that count itself. -/
theorem eq_two_mul_of_near {j : ℕ} (hu : IsDouble u) (hlt : u < 2 ^ 53 * one)
    (h : 2 * u = m * one) (hnear : |(u : ℚ) - j * one| ≤ spacing u / 2) : m = 2 * j := by
  have hone := cast_one_pos
  have hcast : (2 * u : ℚ) = m * one := by exact_mod_cast h
  have hclose : |(m : ℚ) - 2 * j| * one ≤ spacing u := by
    have hdouble : ((m : ℚ) - 2 * j) * one = 2 * (u - j * one) := by linarith
    calc
      |(m : ℚ) - 2 * j| * one = |((m : ℚ) - 2 * j) * one| := by rw [abs_mul, abs_of_pos hone]
      _ = 2 * |(u : ℚ) - j * one| := by rw [hdouble, abs_mul, abs_two]
      _ ≤ spacing u := by linarith
  rcases Nat.even_or_odd m with ⟨i, hi⟩ | hodd
  · have hspacing : (spacing u : ℚ) * 2 ^ 53 ≤ 2 ^ 53 * one := by
      exact_mod_cast spacing_mul_le_one hlt
    have hstep : |(m : ℚ) - 2 * j| ≤ 1 := le_of_mul_le_mul_right (by linarith) hone
    have hstep' : |(m : ℤ) - 2 * j| ≤ 1 := by exact_mod_cast hstep
    rw [abs_le] at hstep'
    omega
  · -- an odd count of halves is no integer, so doubles are at most a half apart there
    have hsmall : u < 2 ^ 52 * one :=
      lt_of_not_dvd hu fun hdvd ↦ Nat.not_even_iff_odd.2 hodd (even_of_dvd h hdvd)
    have hspacing : (spacing u : ℚ) * 2 ^ 53 ≤ 2 ^ 52 * one := by
      exact_mod_cast spacing_mul_le_one hsmall
    have hstep : |(m : ℚ) - 2 * j| < 1 := lt_of_mul_lt_mul_right (by linarith) hone.le
    have hstep' : |(m : ℤ) - 2 * j| < 1 := by exact_mod_cast hstep
    rw [Int.abs_lt_one_iff] at hstep'
    omega

/-- A count of halves below `2 ^ 53` is its own shortest decimal. -/
theorem value_shortest_halves (hu : IsDouble u) (hlt : u < 2 ^ 53 * one) (h : 2 * u = m * one) :
    (shortest u).value = m / 2 := by
  have hexact : (halves m).value * one = u := value_halves_mul_one h
  have hread := units_of_exact hu hexact
  have hexponent : (halves m).exponent = -1 := rfl
  have hgrid : (halves m).exponent ∈ gridExponents u := by
    rw [mem_gridExponents]
    omega
  rcases (exponent_le_shortest hu hread hgrid).eq_or_lt with htenths | hcoarse
  · have hfound := onGrid?_shortest hu hread hgrid
    rw [← htenths, onGrid?_of_exact hu hexact] at hfound
    rw [← Option.some.inj hfound, value_halves]
  · have hwhole : -((0 : ℕ) : ℤ) ≤ (shortest u).exponent := by omega
    obtain ⟨j, hj⟩ := exists_value_eq hwhole
    rw [pow_zero, mul_one] at hj
    have hnear := abs_units_sub_le (shortest u)
    rw [shortest_units hu, hj] at hnear
    rw [hj, eq_two_mul_of_near hu hlt h hnear]
    push_cast
    ring

theorem shortest_two_pow : shortest (2 ^ 53 * one) = ⟨2 ^ 53, 0⟩ := by
  decide +kernel

theorem value_shortest_of_exact (hu : IsDouble u) (hle : u ≤ 2 ^ 53 * one)
    (h : 2 * u = m * one) : (shortest u).value = m / 2 := by
  rcases hle.eq_or_lt with heq | hlt
  · have hm : m * one = 2 * 2 ^ 53 * one := by linarith
    rw [heq, shortest_two_pow, eq_of_mul_one_eq hm, value]
    norm_num
  · exact value_shortest_halves hu hlt h

theorem halves_lt_shortest (hu : IsDouble u) (hm : m ≤ 2 ^ 53) (h : m * one < 2 * u) :
    m / 2 < (shortest u).value := by
  have hexact := units_halves hm
  by_contra hle
  rw [not_lt, ← value_halves] at hle
  have hback := units_mono hle
  rw [shortest_units hu] at hback
  linarith

theorem shortest_lt_halves (hu : IsDouble u) (hm : m ≤ 2 ^ 53) (h : 2 * u < m * one) :
    (shortest u).value < m / 2 := by
  have hexact := units_halves hm
  by_contra hle
  rw [not_lt, ← value_halves] at hle
  have hback := units_mono hle
  rw [shortest_units hu] at hback
  linarith

/-- The shortest decimal has as many whole halves as the double. -/
theorem halves_shortest (hu : IsDouble u) (hle : u ≤ 2 ^ 53 * one) :
    (2 * u / one : ℕ) ≤ 2 * (shortest u).value ∧
      2 * (shortest u).value < (2 * u / one : ℕ) + 1 := by
  by_cases hexact : 2 * u = 2 * u / one * one
  · rw [value_shortest_of_exact hu hle hexact]
    constructor <;> linarith
  · have hsmall : u < 2 ^ 52 * one :=
      lt_of_not_dvd hu fun hdvd ↦ hexact (Nat.div_mul_cancel (hdvd.mul_left 2)).symm
    have hmax : 2 * u / one < 2 ^ 53 := by
      rw [Nat.div_lt_iff_lt_mul Binary64.one_pos]
      linarith
    have hbelow := halves_lt_shortest hu hmax.le
      (lt_of_le_of_ne (Nat.div_mul_le_self _ _) (Ne.symm hexact))
    have habove := shortest_lt_halves hu hmax
      ((Nat.div_lt_iff_lt_mul Binary64.one_pos).1 (Nat.lt_succ_self _))
    push_cast at habove
    constructor <;> linarith

/-- The shortest decimal of a double is rounded to the integer that the double is rounded to. -/
theorem places_zero_shortest (hu : IsDouble u) (hle : u ≤ 2 ^ 53 * one) :
    places 0 (shortest u) = roundHalfUp u one := by
  obtain ⟨hbelow, habove⟩ := halves_shortest hu hle
  apply eq_of_forall_lt_iff
  intro k
  rw [lt_places_iff, value_tie, pow_zero, mul_one, lt_roundHalfUp_iff Binary64.one_pos,
    ← Nat.le_div_iff_mul_le Binary64.one_pos]
  constructor
  · intro h
    have hlt : ((2 * k + 1 : ℕ) : ℚ) < (2 * u / one + 1 : ℕ) := by
      push_cast
      linarith
    exact Nat.le_of_lt_succ (by exact_mod_cast hlt)
  · intro h
    have hcast : (2 * k + 1 : ℚ) ≤ (2 * u / one : ℕ) := by exact_mod_cast h
    linarith

end TransferReport.Number.Decimal
