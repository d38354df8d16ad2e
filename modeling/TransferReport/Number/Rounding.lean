/-!
# Rounding a quotient

The natural number nearest to a quotient `n / d` with `0 < d`.  The two roundings differ only at
a half: `roundHalfUp` takes the larger neighbour, `roundHalfEven` the even one.  Both are within
half a unit of the quotient and depend on the quotient alone.
-/

namespace TransferReport.Number

def roundHalfUp (n d : Nat) : Nat :=
  (2 * n + d) / (2 * d)

def roundHalfEven (n d : Nat) : Nat :=
  let floor := n / d
  let twice := 2 * (n % d)
  if twice < d then floor
  else if twice = d then floor + floor % 2
  else floor + 1

theorem roundHalfUp_le (n d : Nat) : 2 * d * roundHalfUp n d ≤ 2 * n + d :=
  Nat.mul_div_le (2 * n + d) (2 * d)

theorem lt_roundHalfUp (n : Nat) {d : Nat} (hd : 0 < d) :
    2 * n < 2 * d * roundHalfUp n d + d := by
  have h := Nat.lt_mul_div_succ (2 * n + d) (show 0 < 2 * d by omega)
  unfold roundHalfUp
  rw [Nat.mul_add] at h
  omega

theorem roundHalfUp_one (n : Nat) : roundHalfUp n 1 = n := by
  unfold roundHalfUp
  omega

theorem roundHalfEven_le (n d : Nat) : 2 * d * roundHalfEven n d ≤ 2 * n + d := by
  have h := Nat.div_add_mod n d
  have e : 2 * d * (n / d) = 2 * (d * (n / d)) := Nat.mul_assoc 2 d (n / d)
  have hr := Nat.mod_two_eq_zero_or_one (n / d)
  unfold roundHalfEven
  dsimp only
  split
  · omega
  · split
    · rcases hr with hr | hr <;> rw [hr, Nat.mul_add] <;> omega
    · rw [Nat.mul_add]
      omega

theorem le_roundHalfEven (n : Nat) {d : Nat} (hd : 0 < d) :
    2 * n ≤ 2 * d * roundHalfEven n d + d := by
  have h := Nat.div_add_mod n d
  have hlt := Nat.mod_lt n hd
  have e : 2 * d * (n / d) = 2 * (d * (n / d)) := Nat.mul_assoc 2 d (n / d)
  have hr := Nat.mod_two_eq_zero_or_one (n / d)
  unfold roundHalfEven
  dsimp only
  split
  · omega
  · split
    · rcases hr with hr | hr <;> rw [hr, Nat.mul_add] <;> omega
    · rw [Nat.mul_add]
      omega

end TransferReport.Number
