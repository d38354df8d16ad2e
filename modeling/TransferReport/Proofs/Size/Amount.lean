import TransferReport.Proofs.Size.ExactText

/-!
# The number that shows a size, at any magnitude

At most 28 digits of a number are kept.  In bytes this bounds the size itself, in every other unit
the double of the quotient, and with it both thresholds are known: below the first one the number is
written, from the second one on the quotient is no double.  What is written is `numberText`, the
decimal text of a count of tenths.
-/

namespace TransferReport.SizeFormat

open Number Number.Decimal

variable {size : ℕ} {unit : SizeUnit}

theorem scaled_mono {larger : ℕ} (h : size ≤ larger) (unit : SizeUnit) :
    scaled size unit ≤ scaled larger unit := by
  apply Binary64.nearest_mono unit.bytes_pos unit.bytes_pos
  gcongr

/-- The double nearest to `10 ^ 28`, in units. -/
def digitLimit : ℕ := Binary64.nearest (10 ^ 28 * Binary64.one) 1

theorem digitLimit_eq_scaled : digitLimit = scaled (10 ^ 28) .byte := rfl

theorem isDouble_digitLimit : Binary64.IsDouble digitLimit :=
  Binary64.isDouble_nearest _ Nat.zero_lt_one

theorem shortest_digitLimit : shortest digitLimit = ⟨1, 28⟩ := by
  decide +kernel

/-- The last tie below `10 ^ 28` reads back as the same double as `10 ^ 28` itself. -/
theorem units_tie_digitLimit : (tie 0 (10 ^ 28 - 1)).units = digitLimit := by
  decide +kernel

theorem digitLimit_lt_limit : digitLimit < Binary64.limit := by
  rw [digitLimit_eq_scaled]
  exact scaled_lt_limit (e := 94) (by norm_num) (by norm_num [SizeUnit.bytes])

theorem largeLimit_le_digitLimit : largeLimit ≤ digitLimit := by
  rw [digitLimit_eq_scaled]
  exact mul_one_le_scaled (by norm_num) (by norm_num [SizeUnit.bytes])

/-- The whole number of a double has at most 28 digits exactly below the double of `10 ^ 28`. -/
theorem places_zero_lt_limit_iff {u : ℕ} (hu : Binary64.IsDouble u) :
    places 0 (shortest u) < Fixed.limit ↔ u < digitLimit := by
  have hreached :
      Fixed.limit ≤ places 0 (shortest u) ↔ (tie 0 (10 ^ 28 - 1)).value ≤ (shortest u).value := by
    rw [← lt_places_iff, Fixed.limit, pow_eq]
    omega
  rw [← not_le, ← not_le, not_iff_not, hreached]
  constructor
  · intro h
    rw [← units_tie_digitLimit, ← shortest_units hu]
    exact units_mono h
  · intro h
    calc
      (tie 0 (10 ^ 28 - 1)).value ≤ (shortest digitLimit).value := by
        rw [shortest_digitLimit, value_tie, value]
        norm_num
      _ ≤ (shortest u).value := value_shortest_mono isDouble_digitLimit hu h

/-- A size is shown with a decimal place: in no bytes, and from a twentieth of the unit to ten
units. -/
def HasTenths (size : ℕ) (unit : SizeUnit) : Prop :=
  unit ≠ .byte ∧ unit.bytes ≤ 20 * size ∧ size < 10 * unit.bytes

instance : Decidable (HasTenths size unit) :=
  inferInstanceAs (Decidable (_ ∧ _))

/-- Ten times the number that shows a size in a unit. -/
def shownTenths (size : ℕ) (unit : SizeUnit) : ℕ :=
  if HasTenths size unit then places 1 (shortest (scaled size unit))
  else if unit = .byte then 10 * size
  else 10 * places 0 (shortest (scaled size unit))

/-- The number that shows a size in a unit. -/
def numberText (mark : Char) (size : ℕ) (unit : SizeUnit) : String :=
  let tenths := shownTenths size unit
  if HasTenths size unit then
    toString (tenths / 10) ++ String.singleton mark ++ toString (tenths % 10)
  else toString (tenths / 10)

/-- The number that shows a size in a unit has at most 28 digits. -/
def Showable (size : ℕ) (unit : SizeUnit) : Prop :=
  if unit = .byte then size < 10 ^ 28 else scaled size unit < digitLimit

/-- The fault of a size whose number cannot be shown: its quotient is no double, or else the number
has too many digits. -/
def numberFault (size : ℕ) (unit : SizeUnit) : Fault :=
  if Binary64.limit ≤ scaled size unit then .quotientOutOfRange else .tooManyDigits

theorem showable_byte_iff : Showable size .byte ↔ size < 10 ^ 28 := by
  rw [Showable, if_pos rfl]

theorem showable_iff_of_ne_byte (hunit : unit ≠ .byte) :
    Showable size unit ↔ scaled size unit < digitLimit := by
  rw [Showable, if_neg hunit]

theorem shownTenths_of_hasTenths (h : HasTenths size unit) :
    shownTenths size unit = roundHalfUp (10 * size) unit.bytes := by
  rw [shownTenths, if_pos h, places_shortest_scaled_one h.2.2]

theorem shownTenths_byte (size : ℕ) : shownTenths size .byte = 10 * size := by
  rw [shownTenths, if_neg (fun h : HasTenths size .byte ↦ h.1 rfl), if_pos rfl]

theorem shownTenths_of_whole (hunit : unit ≠ .byte) (h : ¬ HasTenths size unit) :
    shownTenths size unit = 10 * places 0 (shortest (scaled size unit)) := by
  rw [shownTenths, if_neg h, if_neg hunit]

/-! ## The amount -/

/-- A size whose double is in range has a text. -/
theorem isWritable_of_scaled_lt_limit (h : scaled size .byte < Binary64.limit) :
    Text.isWritable size = true := by
  rw [Text.isWritable_iff, Int.natAbs_natCast]
  by_contra hlarge
  refine h.not_ge (limit_le_scaled (by decide : 1024 ≤ Text.digitLimit) ?_)
  calc
    2 ^ Text.digitLimit * SizeUnit.byte.bytes = 2 ^ Text.digitLimit := by
      rw [SizeUnit.bytes, mul_one]
    _ ≤ 10 ^ Text.digitLimit := pow_le_pow_left₀ (by norm_num) (by norm_num) _
    _ ≤ size := not_lt.1 hlarge

theorem large_int_of_limit_le {n : ℕ} (h : Fixed.limit ≤ n) (writable : Text.isWritable n = true) :
    large (.int n) = .error .tooManyDigits := by
  simp [large, fixed?, writable, Fixed.ofCount, places_zero_of_exponent_zero, h.not_gt, Except.map]

theorem large_finite_of_limit_le {u : ℕ} (h : Fixed.limit ≤ places 0 (shortest u)) :
    large (.real (.finite false u)) = .error .tooManyDigits := by
  simp [large, fixed?, Fixed.ofCount, h.not_gt, Except.map]

theorem showable_of_hasTenths (h : HasTenths size unit) : Showable size unit := by
  have hsmall : scaled size unit < largeLimit := by
    rw [← not_le, largeLimit_le_scaled_iff]
    exact h.2.2.not_ge
  rw [showable_iff_of_ne_byte h.1]
  exact hsmall.trans_le largeLimit_le_digitLimit

theorem scaled_lt_limit_of_showable (h : Showable size unit) :
    scaled size unit < Binary64.limit := by
  by_cases hunit : unit = .byte
  · subst hunit
    rw [showable_byte_iff] at h
    calc
      scaled size .byte ≤ digitLimit := scaled_mono h.le .byte
      _ < Binary64.limit := digitLimit_lt_limit
  · rw [showable_iff_of_ne_byte hunit] at h
    exact h.trans digitLimit_lt_limit

/-- The limits of the formatter say whether a size is shown with a decimal place. -/
theorem limits_iff (hunit : unit ≠ .byte) :
    (scaled size unit < smallLimit || largeLimit ≤ scaled size unit) = true ↔
      ¬ HasTenths size unit := by
  rw [Bool.or_eq_true, decide_eq_true_iff, decide_eq_true_iff, scaled_lt_smallLimit_iff,
    largeLimit_le_scaled_iff, HasTenths]
  simp only [hunit, ne_eq, not_false_eq_true, true_and, not_and_or, not_le, not_lt]

theorem amount_byte (f : SizeFormat) (h : scaled size .byte < Binary64.limit) :
    f.amount size .byte = large (.int size) := by
  rw [amount, if_neg h.not_ge, if_pos rfl]

theorem amount_of_hasTenths (f : SizeFormat) (h : HasTenths size unit) :
    f.amount size unit = f.small (.real (.finite false (scaled size unit))) := by
  have hlimit := scaled_lt_limit_of_showable (showable_of_hasTenths h)
  rw [amount, if_neg hlimit.not_ge, if_neg h.1, if_neg]
  rw [limits_iff h.1]
  exact not_not_intro h

theorem amount_of_whole (f : SizeFormat) (hunit : unit ≠ .byte) (h : ¬ HasTenths size unit)
    (hlimit : scaled size unit < Binary64.limit) :
    f.amount size unit = large (.real (.finite false (scaled size unit))) := by
  rw [amount, if_neg hlimit.not_ge, if_neg hunit, if_pos ((limits_iff hunit).2 h)]

/-- A size that can be shown is shown by its number. -/
theorem amount_of_showable (f : SizeFormat) (h : Showable size unit) :
    f.amount size unit = .ok (numberText f.mark size unit) := by
  have hlimit := scaled_lt_limit_of_showable h
  by_cases htenths : HasTenths size unit
  · have hcount : places 1 (shortest (scaled size unit)) < Fixed.limit := by
      rw [places_shortest_scaled_one htenths.2.2, Fixed.limit, pow_eq]
      have hsize := htenths.2.2
      have hbytes := bytes_le unit
      have hround := roundHalfUp_le_succ (10 * size) unit.bytes_pos
      omega
    rw [amount_of_hasTenths f htenths, small_finite f hcount, numberText, if_pos htenths,
      shownTenths, if_pos htenths]
  · rw [numberText, if_neg htenths]
    by_cases hunit : unit = .byte
    · subst hunit
      rw [showable_byte_iff] at h
      rw [amount_byte f hlimit, large_int h, shownTenths_byte,
        Nat.mul_div_cancel_left _ (by norm_num)]
    · have hcount : places 0 (shortest (scaled size unit)) < Fixed.limit := by
        rw [places_zero_lt_limit_iff (isDouble_scaled _ _)]
        exact (showable_iff_of_ne_byte hunit).1 h
      rw [amount_of_whole f hunit htenths hlimit, large_finite hcount,
        shownTenths_of_whole hunit htenths, Nat.mul_div_cancel_left _ (by norm_num)]

/-- Any other size fails. -/
theorem amount_of_not_showable (f : SizeFormat) (h : ¬ Showable size unit) :
    f.amount size unit = .error (numberFault size unit) := by
  by_cases hlimit : Binary64.limit ≤ scaled size unit
  · rw [amount, if_pos hlimit, numberFault, if_pos hlimit]
  · rw [numberFault, if_neg hlimit]
    rw [not_le] at hlimit
    by_cases hunit : unit = .byte
    · subst hunit
      rw [showable_byte_iff, not_lt] at h
      rw [amount_byte f hlimit, large_int_of_limit_le h (isWritable_of_scaled_lt_limit hlimit)]
    · have htenths : ¬ HasTenths size unit := fun htenths ↦ h (showable_of_hasTenths htenths)
      have hcount : Fixed.limit ≤ places 0 (shortest (scaled size unit)) := by
        rw [← not_lt, places_zero_lt_limit_iff (isDouble_scaled _ _)]
        rwa [showable_iff_of_ne_byte hunit] at h
      rw [amount_of_whole f hunit htenths hlimit, large_finite_of_limit_le hcount]

variable {count : ℤ}

theorem formatIn_of_neg (f : SizeFormat) (h : count < 0) (unit : SizeUnit) (symbol : Bool) :
    f.formatIn count unit symbol = .error (Fault.negativeSize count).raised := by
  rw [formatIn, if_pos h]

theorem formatIn_of_showable (f : SizeFormat) (hlow : 0 ≤ count) (h : Showable count.toNat unit)
    (symbol : Bool) :
    f.formatIn count unit symbol = .ok (numberText f.mark count.toNat unit ++
      if symbol then " " ++ unit.symbol else "") := by
  rw [formatIn, if_neg hlow.not_gt, amount_of_showable f h]
  rfl

theorem formatIn_of_not_showable (f : SizeFormat) (hlow : 0 ≤ count)
    (h : ¬ Showable count.toNat unit) (symbol : Bool) :
    f.formatIn count unit symbol = .error (numberFault count.toNat unit) := by
  rw [formatIn, if_neg hlow.not_gt, amount_of_not_showable f h]
  rfl

/-- The formatter gives a text exactly for the sizes that can be shown. -/
theorem exists_formatIn_iff (f : SizeFormat) (symbol : Bool) :
    (∃ text, f.formatIn count unit symbol = .ok text) ↔
      0 ≤ count ∧ Showable count.toNat unit := by
  constructor
  · rintro ⟨text, hformat⟩
    have hlow : 0 ≤ count := by
      by_contra hneg
      rw [formatIn_of_neg f (not_le.1 hneg)] at hformat
      cases hformat
    refine ⟨hlow, ?_⟩
    by_contra hshow
    rw [formatIn_of_not_showable f hlow hshow] at hformat
    cases hformat
  · rintro ⟨hlow, hshow⟩
    exact ⟨_, formatIn_of_showable f hlow hshow symbol⟩

end TransferReport.SizeFormat
