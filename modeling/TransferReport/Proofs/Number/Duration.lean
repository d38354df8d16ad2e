import Mathlib.Algebra.Order.Ring.Abs
import Mathlib.Data.Nat.Cast.Order.Field
import Mathlib.Data.Rat.Floor
import TransferReport.Number.Arithmetic
import TransferReport.Proofs.Number.Nearest

/-!
# Durations and quotients by them

Two readings of a clock that are no larger than `2 ^ 53` can be subtracted, whether they are
integers or doubles, and the rounded difference has passed or not as the exact one has.  A count of
bytes can be divided by a duration that is not too short, and the quotient is a double with an
integer part.
-/

namespace TransferReport.Number

namespace Binary64

/-- A quotient of at most `2 ^ e` is rounded to a finite double. -/
theorem ofQuotient_of_le (negative : Bool) {n d e : ℕ} (he : e < 1024) (hd : 0 < d)
    (h : n ≤ 2 ^ e * one * d) : ofQuotient negative n d = finite negative (nearest n d) := by
  have hlimit : nearest n d < limit := by
    calc
      nearest n d ≤ 2 ^ e * one := nearest_le_of_isDouble hd (isDouble_two_pow_mul_one e) h
      _ < limit := two_pow_mul_one_lt_limit he
  rw [ofQuotient, if_pos hlimit]

theorem exists_one_eq : ∃ k, one = 2 ^ 20 * 2 ^ k := by
  obtain ⟨k, hk⟩ : ∃ k, 1074 = 20 + k := ⟨1054, rfl⟩
  exact ⟨k, by rw [one_eq, hk, pow_add]⟩

theorem ofInt_of_natAbs_le {n : ℤ} (h : n.natAbs ≤ 2 ^ 53) :
    ofInt n = finite (decide (n < 0)) (n.natAbs * one) := by
  have hexact : nearest (n.natAbs * one) 1 = n.natAbs * one :=
    nearest_self (isDouble_mul_one h)
  have hlimit : n.natAbs * one < limit := by
    calc
      n.natAbs * one ≤ 2 ^ 53 * one := Nat.mul_le_mul_right _ h
      _ < limit := two_pow_mul_one_lt_limit (by norm_num)
  rw [ofInt, ofQuotient, hexact, if_pos hlimit]

theorem mul_one_le_nearest {a b : ℕ} (ha : a ≤ 2 ^ 53) (hb : 0 < b) :
    a / b * one ≤ nearest (a * one) b := by
  apply le_nearest_of_isDouble hb (isDouble_mul_one ((Nat.div_le_self a b).trans ha))
  calc
    a / b * one * b = a / b * b * one := Nat.mul_right_comm _ _ _
    _ ≤ a * one := Nat.mul_le_mul_right one (Nat.div_mul_le_self a b)

/-- Of two integers below `2 ^ 53` the quotient is not rounded up to the next integer: it is at
least `1 / b` away from it, and half a spacing is less than that. -/
theorem nearest_lt_succ_mul_one {a b : ℕ} (ha : a < 2 ^ 53) (hb : 0 < b) :
    nearest (a * one) b < (a / b + 1) * one := by
  rcases Nat.lt_or_ge (a * one / b) (2 ^ 52) with htiny | hlarge
  · calc
      nearest (a * one) b ≤ 2 ^ 52 :=
        nearest_le_of_isDouble hb (isDouble_two_pow 52) ((Nat.div_lt_iff_lt_mul hb).1 htiny).le
      _ < one := two_pow_lt_one (by norm_num)
      _ ≤ (a / b + 1) * one := Nat.le_mul_of_pos_left one (Nat.succ_pos _)
  · have hb' : (0 : ℚ) < b := by exact_mod_cast hb
    have hone := cast_one_pos
    have hnear := (abs_le.1 (abs_nearest_sub_le (a * one) hb)).2
    have hspacing : (spacing (a * one / b) : ℚ) * 2 ^ 52 ≤ (a * one : ℕ) / b := by
      calc
        (spacing (a * one / b) : ℚ) * 2 ^ 52 ≤ (a * one / b : ℕ) := by
          exact_mod_cast spacing_mul_two_pow_le hlarge
        _ ≤ (a * one : ℕ) / b := Nat.cast_div_le
    have hhalf : (spacing (a * one / b) : ℚ) / 2 < one / b := by
      have hcount : (a : ℚ) < 2 ^ 53 := by exact_mod_cast ha
      have hquotient : ((a * one : ℕ) / b : ℚ) < 2 ^ 53 * (one / b) := by
        rw [Nat.cast_mul, mul_div_assoc]
        exact mul_lt_mul_of_pos_right hcount (div_pos hone hb')
      linarith
    have hnext : ((a * one : ℕ) / b : ℚ) + one / b ≤ (a / b + 1 : ℕ) * one := by
      have hsucc : (a + 1 : ℚ) ≤ (a / b + 1 : ℕ) * b := by
        exact_mod_cast Nat.lt_mul_of_div_lt (Nat.lt_succ_self (a / b)) hb
      calc
        ((a * one : ℕ) / b : ℚ) + one / b = (a + 1) * one / b := by
          rw [Nat.cast_mul, add_mul, one_mul, add_div]
        _ ≤ (a / b + 1 : ℕ) * one := by
          rw [div_le_iff₀ hb', mul_right_comm]
          exact mul_le_mul_of_nonneg_right hsucc hone.le
    have hlt : (nearest (a * one) b : ℚ) < (a / b + 1 : ℕ) * one := by linarith
    exact_mod_cast hlt

/-- The integer part of a rounded quotient is that of the exact one. -/
theorem nearest_div_one {a b : ℕ} (ha : a < 2 ^ 53) (hb : 0 < b) :
    nearest (a * one) b / one = a / b :=
  Nat.div_eq_of_lt_le (mul_one_le_nearest ha.le hb) (nearest_lt_succ_mul_one ha hb)

theorem signed_natAbs (n : ℤ) (d : ℕ) : signed (decide (n < 0)) (n.natAbs * d) = n * d := by
  unfold signed
  by_cases h : n < 0
  · rw [decide_eq_true h, if_pos rfl, Nat.cast_mul, Int.ofNat_natAbs_of_nonpos h.le, neg_mul,
      neg_neg]
  · rw [decide_eq_false h, if_neg Bool.false_ne_true, Nat.cast_mul,
      Int.natAbs_of_nonneg (not_lt.1 h)]

theorem truncate_false_le {units e : ℕ} (h : units ≤ 2 ^ e * one) :
    0 ≤ truncate false units ∧ truncate false units ≤ 2 ^ e := by
  have hle : units / one ≤ 2 ^ e := by
    calc
      units / one ≤ 2 ^ e * one / one := Nat.div_le_div_right h
      _ = 2 ^ e := Nat.mul_div_cancel _ one_pos
  have hvalue : truncate false units = (units / one : ℕ) := rfl
  rw [hvalue]
  exact ⟨Int.natCast_nonneg _, by exact_mod_cast hle⟩

end Binary64

/-! ## Readings of a clock -/

/-- The exact value of an integer or of a finite double. -/
def value? : Number → Option ℚ
  | int n => some n
  | real (.finite negative units) => some (Binary64.signed negative units / Binary64.one)
  | real _ => none

/-- A duration that has passed and is not too short to divide by. -/
inductive Lasts : Number → Prop where
  | int {n : ℤ} (h : 1 ≤ n) : Lasts (int n)
  | real {units : ℕ} (h : Binary64.one ≤ 2 ^ 20 * units) : Lasts (real (.finite false units))

/-- The difference of two readings is a duration that has not passed, or one to divide by. -/
def Elapsed (now began : Number) : Prop :=
  ∃ duration, now.sub began = .ok duration ∧ (duration.nonpositive ∨ duration.Lasts)

theorem elapsed_int (now began : ℤ) : Elapsed (int now) (int began) := by
  refine ⟨int (now - began), rfl, ?_⟩
  by_cases h : now - began ≤ 0
  · exact .inl (decide_eq_true h)
  · exact .inr (.int (Int.not_le.1 h))

theorem toBinary64_of_ofInt {n : ℤ} {negative : Bool} {units : ℕ}
    (h : Binary64.ofInt n = .finite negative units) :
    toBinary64 n = .ok (.finite negative units) := by
  rw [toBinary64, h]
  rfl

/-- A reading of at most `2 ^ 53` is a double, or an integer that is converted to one exactly. -/
theorem exists_finite {x : Number} {value : ℚ} (hx : x.value? = some value)
    (hvalue : |value| ≤ 2 ^ 53) :
    ∃ negative units, (Binary64.signed negative units : ℚ) = value * Binary64.one ∧
      (x = real (.finite negative units) ∨
        ∃ n, x = int n ∧ toBinary64 n = .ok (.finite negative units)) := by
  have hone := Binary64.cast_one_pos.ne'
  cases x with
  | int n =>
    obtain rfl : (n : ℚ) = value := Option.some.inj hx
    have hn : n.natAbs ≤ 2 ^ 53 := by
      zify
      exact_mod_cast hvalue
    refine ⟨decide (n < 0), n.natAbs * Binary64.one, ?_, .inr ⟨n, rfl, ?_⟩⟩
    · rw [Binary64.signed_natAbs, Int.cast_mul, Int.cast_natCast]
    · exact toBinary64_of_ofInt (Binary64.ofInt_of_natAbs_le hn)
  | real x =>
    cases x with
    | nan => cases hx
    | infinity negative => cases hx
    | finite negative units =>
      obtain rfl := Option.some.inj hx
      exact ⟨negative, units, by rw [div_mul_cancel₀ _ hone], .inl rfl⟩

theorem sub_real_real (x y : Binary64) : (real x).sub (real y) = .ok (real (x.sub y)) := rfl

theorem sub_real_int (x : Binary64) {n : ℤ} {y : Binary64} (h : toBinary64 n = .ok y) :
    (real x).sub (int n) = .ok (real (x.sub y)) := by
  rw [sub, h, Except.map]

theorem sub_int_real {n : ℤ} {x : Binary64} (h : toBinary64 n = .ok x) (y : Binary64) :
    (int n).sub (real y) = .ok (real (x.sub y)) := by
  rw [sub, h, Except.map]

/-- The exact difference of two doubles, in units. -/
theorem Binary64.sub_finite_of_le (a b : Bool) {m n : ℕ} {exact : ℤ}
    (hexact : signed a m - signed b n = exact) (hrange : exact.natAbs ≤ 2 ^ 54 * one) :
    (finite a m).sub (finite b n) =
      finite (if exact = 0 then a && !b else decide (exact < 0)) (nearest exact.natAbs 1) := by
  rw [sub, hexact]
  apply ofQuotient_of_le (e := 54) _ (by norm_num) Nat.zero_lt_one
  rwa [mul_one]

theorem nonpositive_sub (a b : Bool) {m n : ℕ} {exact : ℤ}
    (hexact : Binary64.signed a m - Binary64.signed b n = exact)
    (hrange : exact.natAbs ≤ 2 ^ 54 * Binary64.one) (hpassed : exact ≤ 0) :
    (real ((Binary64.finite a m).sub (.finite b n))).nonpositive := by
  rw [Binary64.sub_finite_of_le a b hexact hrange, nonpositive, Binary64.nonpositive]
  rcases hpassed.eq_or_lt with rfl | hneg
  · have hzero : Binary64.nearest (Int.natAbs 0) 1 = 0 :=
      Binary64.nearest_self (dvd_zero (Binary64.spacing 0))
    rw [hzero, beq_self_eq_true, Bool.or_true]
  · rw [if_neg hneg.ne, decide_eq_true hneg, Bool.true_or]

theorem lasts_sub (a b : Bool) {m n : ℕ} {exact : ℤ}
    (hexact : Binary64.signed a m - Binary64.signed b n = exact)
    (hrange : exact.natAbs ≤ 2 ^ 54 * Binary64.one) (hlong : Binary64.one ≤ 10 ^ 6 * exact) :
    (real ((Binary64.finite a m).sub (.finite b n))).Lasts := by
  have hpos : 0 < exact := by
    have hone : (0 : ℤ) < Binary64.one := by exact_mod_cast Binary64.one_pos
    omega
  rw [Binary64.sub_finite_of_le a b hexact hrange, if_neg hpos.ne', decide_eq_false hpos.not_gt]
  obtain ⟨k, hk⟩ := Binary64.exists_one_eq
  have hreached : 2 ^ k ≤ exact.natAbs := by
    rw [hk] at hlong
    push_cast at hlong
    zify
    rw [abs_of_pos hpos]
    linarith
  refine .real ?_
  rw [hk]
  apply Nat.mul_le_mul_left
  apply Binary64.le_nearest_of_isDouble Nat.zero_lt_one (Binary64.isDouble_two_pow k)
  rwa [mul_one]

/-- The rounded difference of two doubles has not passed, or can be divided by, as the exact one. -/
theorem elapsed_finite {a b : Bool} {m n : ℕ} {now began : ℚ}
    (hm : (Binary64.signed a m : ℚ) = now * Binary64.one)
    (hn : (Binary64.signed b n : ℚ) = began * Binary64.one) (hnow : |now| ≤ 2 ^ 53)
    (hbegan : |began| ≤ 2 ^ 53) (elapsed : now - began ≤ 0 ∨ 1 / 10 ^ 6 ≤ now - began) :
    (real ((Binary64.finite a m).sub (.finite b n))).nonpositive ∨
      (real ((Binary64.finite a m).sub (.finite b n))).Lasts := by
  have hone := Binary64.cast_one_pos
  generalize hexact : Binary64.signed a m - Binary64.signed b n = exact
  have hdifference : (exact : ℚ) = (now - began) * Binary64.one := by
    rw [← hexact, sub_mul, ← hm, ← hn]
    push_cast
    rfl
  have hrange : exact.natAbs ≤ 2 ^ 54 * Binary64.one := by
    have htwice : |now - began| ≤ 2 ^ 54 := by
      rw [abs_le] at hnow hbegan ⊢
      constructor <;> linarith
    have hcast : |(exact : ℚ)| ≤ 2 ^ 54 * Binary64.one := by
      rw [hdifference, abs_mul, abs_of_pos hone]
      exact mul_le_mul_of_nonneg_right htwice hone.le
    zify
    exact_mod_cast hcast
  rcases elapsed with hpassed | hlong
  · have hnonpos : exact ≤ 0 := by
      have hcast : (exact : ℚ) ≤ 0 := by
        rw [hdifference]
        exact mul_nonpos_of_nonpos_of_nonneg hpassed hone.le
      exact_mod_cast hcast
    exact .inl (nonpositive_sub a b hexact hrange hnonpos)
  · have hmillion : (Binary64.one : ℚ) ≤ 10 ^ 6 * exact := by
      calc
        (Binary64.one : ℚ) = 10 ^ 6 * (1 / 10 ^ 6 * Binary64.one) := by ring
        _ ≤ 10 ^ 6 * exact := by
          rw [hdifference]
          exact mul_le_mul_of_nonneg_left (mul_le_mul_of_nonneg_right hlong hone.le) (by norm_num)
    exact .inr (lasts_sub a b hexact hrange (by exact_mod_cast hmillion))

/-- Readings of at most `2 ^ 53` whose exact difference has not passed, or is a millionth of a
second at least. -/
theorem elapsed_of_value? {x y : Number} {now began : ℚ} (hx : x.value? = some now)
    (hy : y.value? = some began) (hnow : |now| ≤ 2 ^ 53) (hbegan : |began| ≤ 2 ^ 53)
    (elapsed : now - began ≤ 0 ∨ 1 / 10 ^ 6 ≤ now - began) : Elapsed x y := by
  obtain ⟨a, m, hm, hfirst⟩ := exists_finite hx hnow
  obtain ⟨b, n, hn, hsecond⟩ := exists_finite hy hbegan
  have hduration := elapsed_finite hm hn hnow hbegan elapsed
  rcases hfirst with rfl | ⟨i, rfl, hi⟩ <;> rcases hsecond with rfl | ⟨j, rfl, hj⟩
  · exact ⟨_, sub_real_real _ _, hduration⟩
  · exact ⟨_, sub_real_int _ hj, hduration⟩
  · exact ⟨_, sub_int_real hi _, hduration⟩
  · exact elapsed_int i j

/-! ## Quotients -/

theorem toBinary64_of_nonneg {n : ℤ} {e : ℕ} (hlow : 0 ≤ n) (he : e < 1024) (h : n ≤ 2 ^ e) :
    ∃ units, toBinary64 n = .ok (.finite false units) ∧ units ≤ 2 ^ e * Binary64.one := by
  have hrange : n.natAbs * Binary64.one ≤ 2 ^ e * Binary64.one * 1 := by
    have habs : n.natAbs ≤ 2 ^ e := by
      zify
      rwa [abs_of_nonneg hlow]
    rw [mul_one]
    exact Nat.mul_le_mul_right _ habs
  refine ⟨Binary64.nearest (n.natAbs * Binary64.one) 1, toBinary64_of_ofInt ?_,
    Binary64.nearest_le_of_isDouble Nat.zero_lt_one (Binary64.isDouble_two_pow_mul_one e) hrange⟩
  rw [Binary64.ofInt, decide_eq_false hlow.not_gt,
    Binary64.ofQuotient_of_le false he Nat.zero_lt_one hrange]

theorem natAbs_mul_one_le {count n : ℤ} (hlow : 0 ≤ count) (h : count ≤ 2 ^ 100) (hn : 0 < n) :
    count.natAbs * Binary64.one ≤ 2 ^ 120 * Binary64.one * n.natAbs := by
  have hcount : count.natAbs ≤ 2 ^ 120 := by
    zify
    rw [abs_of_nonneg hlow]
    exact h.trans (by norm_num)
  calc
    count.natAbs * Binary64.one ≤ 2 ^ 120 * Binary64.one := Nat.mul_le_mul_right _ hcount
    _ ≤ 2 ^ 120 * Binary64.one * n.natAbs := Nat.le_mul_of_pos_right _ (by omega)

/-- The exact quotient of two integers is rounded once. -/
theorem quotient_int {count n : ℤ} (hlow : 0 ≤ count) (h : count ≤ 2 ^ 100) (hn : 0 < n) :
    quotient count (int n) =
      .ok (.finite false (Binary64.nearest (count.natAbs * Binary64.one) n.natAbs)) := by
  rw [quotient, intQuotient, decide_eq_false hlow.not_gt, decide_eq_false hn.not_gt,
    Binary64.ofQuotient_of_le _ (by norm_num) (by omega) (natAbs_mul_one_le hlow h hn)]
  rfl

/-- Below `2 ^ 53` the integer part of a quotient is the floor of its exact value. -/
theorem integerPart_quotient {count n : ℤ} (hlow : 0 ≤ count) (h : count < 2 ^ 53) (hn : 0 < n) :
    quotient count (int n) >>= integerPart = .ok ⌊(count / n : ℚ)⌋ := by
  rw [quotient_int hlow (h.le.trans (by norm_num)) hn]
  lift count to ℕ using hlow
  lift n to ℕ using hn.le
  have hwhole : Binary64.nearest (count * Binary64.one) n / Binary64.one = count / n :=
    Binary64.nearest_div_one (by exact_mod_cast h) (by exact_mod_cast hn)
  have hfloor : ⌊(((count : ℤ) : ℚ) / ((n : ℤ) : ℚ))⌋ = (count / n : ℕ) := by
    rw [Int.cast_natCast, Int.cast_natCast, Rat.floor_natCast_div_natCast]
    rfl
  rw [hfloor, ← hwhole]
  rfl

/-- The quotient of a count of bytes by a duration is a double with an integer part. -/
theorem exists_quotient {count : ℤ} {duration : Number} (hlow : 0 ≤ count) (h : count ≤ 2 ^ 100)
    (hlasts : duration.Lasts) :
    ∃ units, quotient count duration = .ok (.finite false units) ∧
      units ≤ 2 ^ 120 * Binary64.one := by
  have hdouble := Binary64.isDouble_two_pow_mul_one 120
  cases hlasts with
  | @int n hn =>
    have hpos : 0 < n := hn
    exact ⟨_, quotient_int hlow h hpos,
      Binary64.nearest_le_of_isDouble (by omega) hdouble (natAbs_mul_one_le hlow h hpos)⟩
  | @real units hlong =>
    obtain ⟨bytes, hcount, hbytes'⟩ := toBinary64_of_nonneg hlow (by norm_num) h
    have hpos : 0 < units := by
      have hone := Binary64.one_pos
      omega
    have hrange : bytes * Binary64.one ≤ 2 ^ 120 * Binary64.one * units := by
      calc
        bytes * Binary64.one ≤ 2 ^ 100 * Binary64.one * (2 ^ 20 * units) :=
          Nat.mul_le_mul hbytes' hlong
        _ = 2 ^ 120 * Binary64.one * units := by ring
    refine ⟨_, ?_, Binary64.nearest_le_of_isDouble hpos hdouble hrange⟩
    rw [quotient, hcount, Except.map, Binary64.div, if_neg hpos.ne',
      Binary64.ofQuotient_of_le _ (by norm_num) hpos hrange]
    rfl

end TransferReport.Number
