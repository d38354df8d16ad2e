import TransferReport.Proofs.Size.Reading

/-!
# The shown quantity grows with the size

In one unit a larger size is shown as no smaller number, also where tenths give way to whole
numbers or the other way round.  Where the unit changes, the larger unit lies between the two sizes;
it is a whole multiple of the smaller one, and both show it exactly.  Hence the quantity that is
read of the text of a size, number times unit, never falls when the size grows, and no smaller size
fails where a larger one can be shown.
-/

namespace TransferReport

namespace SizeUnit

theorem forSize_eq (size : ℕ) :
    forSize size = if gigabyte.bytes ≤ size then gigabyte
      else if megabyte.bytes ≤ size then megabyte
      else if kilobyte.bytes ≤ size then kilobyte
      else byte := by
  simp only [forSize, all, List.reverse_cons, List.reverse_nil, List.nil_append, List.cons_append,
    List.find?_cons, List.find?_nil]
  split_ifs with hgiga hmega hkilo
  · simp only [hgiga, decide_true, Option.getD_some]
  · simp only [hgiga, hmega, decide_true, decide_false, Option.getD_some]
  · simp only [hgiga, hmega, hkilo, decide_true, decide_false, Option.getD_some]
  · simp only [hgiga, hmega, hkilo, decide_false]
    cases decide (byte.bytes ≤ size) <;> rfl

/-- A unit is at most the unit of a size exactly when it is at most the size, or the byte. -/
theorem bytes_le_bytes_forSize_iff {size : ℕ} {unit : SizeUnit} :
    unit.bytes ≤ (forSize size).bytes ↔ unit.bytes ≤ max size 1 := by
  rw [forSize_eq]
  cases unit <;> split_ifs <;> simp only [bytes] at * <;> omega

theorem bytes_forSize_mono {size larger : ℕ} (h : size ≤ larger) :
    (forSize size).bytes ≤ (forSize larger).bytes := by
  rw [bytes_le_bytes_forSize_iff]
  calc
    (forSize size).bytes ≤ max size 1 := bytes_le_bytes_forSize_iff.1 le_rfl
    _ ≤ max larger 1 := max_le_max_right 1 h

theorem bytes_injective : Function.Injective bytes := by
  intro one other h
  cases one <;> cases other <;> first | rfl | cases h

theorem bytes_dvd_bytes {one other : SizeUnit} (h : one.bytes ≤ other.bytes) :
    one.bytes ∣ other.bytes := by
  revert h
  cases one <;> cases other <;> decide

end SizeUnit

namespace SizeFormat

open Number Number.Decimal

variable {size larger : ℕ} {unit : SizeUnit}

theorem showable_mono (h : size ≤ larger) (hshow : Showable larger unit) : Showable size unit := by
  by_cases hunit : unit = .byte
  · subst hunit
    rw [showable_byte_iff] at hshow ⊢
    exact h.trans_lt hshow
  · rw [showable_iff_of_ne_byte hunit] at hshow ⊢
    exact (scaled_mono h unit).trans_lt hshow

theorem roundHalfUp_mul_right (k : ℕ) {d : ℕ} (hd : 0 < d) : roundHalfUp (k * d) d = k := by
  rw [roundHalfUp, show 2 * (k * d) + d = d + k * (2 * d) by ring,
    Nat.add_mul_div_right _ _ (by omega), Nat.div_eq_of_lt (by omega), zero_add]

/-- Whole multiples of a unit are shown exactly. -/
theorem shownTenths_mul_bytes {k : ℕ} (h : k * unit.bytes < exactLimit) :
    shownTenths (k * unit.bytes) unit = 10 * k := by
  by_cases htenths : HasTenths (k * unit.bytes) unit
  · rw [shownTenths_of_hasTenths htenths, ← mul_assoc, roundHalfUp_mul_right _ unit.bytes_pos]
  · by_cases hunit : unit = .byte
    · subst hunit
      rw [shownTenths_byte, SizeUnit.bytes, mul_one]
    · rw [shownTenths_of_whole hunit htenths, places_shortest_scaled_zero hunit h,
        roundHalfUp_mul_right _ unit.bytes_pos]

theorem places_shortest_scaled_mono (p : ℕ) (h : size ≤ larger) (unit : SizeUnit) :
    places p (shortest (scaled size unit)) ≤ places p (shortest (scaled larger unit)) :=
  places_mono (value_shortest_mono (isDouble_scaled _ _) (isDouble_scaled _ _) (scaled_mono h unit))

/-- Less than a twentieth of a unit is shown as nothing. -/
theorem shownTenths_eq_zero (hunit : unit ≠ .byte) (h : 20 * size < unit.bytes) :
    shownTenths size unit = 0 := by
  have hwhole : ¬ HasTenths size unit := fun htenths ↦ h.not_ge htenths.2.1
  have hexact : size < exactLimit := by
    have hbytes := bytes_le unit
    unfold exactLimit
    omega
  have hnone : roundHalfUp size unit.bytes = 0 := Nat.div_eq_of_lt (by omega)
  rw [shownTenths_of_whole hunit hwhole, places_shortest_scaled_zero hunit hexact, hnone]

/-- Below ten units no more than ten units are shown. -/
theorem shownTenths_le_hundred (h : HasTenths size unit) : shownTenths size unit ≤ 100 := by
  rw [shownTenths_of_hasTenths h]
  by_contra hlt
  rw [not_le, lt_roundHalfUp_iff unit.bytes_pos] at hlt
  have hsize := h.2.2
  omega

theorem shownTenths_mono_of_whole (hunit : unit ≠ .byte) (hsize : ¬ HasTenths size unit)
    (hlarger : ¬ HasTenths larger unit) (h : size ≤ larger) :
    shownTenths size unit ≤ shownTenths larger unit := by
  rw [shownTenths_of_whole hunit hsize, shownTenths_of_whole hunit hlarger]
  exact Nat.mul_le_mul_left 10 (places_shortest_scaled_mono 0 h unit)

/-- From ten units on at least ten units are shown. -/
theorem hundred_le_shownTenths (hunit : unit ≠ .byte) (h : 10 * unit.bytes ≤ size) :
    100 ≤ shownTenths size unit := by
  have hten : ¬ HasTenths (10 * unit.bytes) unit := fun htenths ↦ htenths.2.2.false
  have hexact : 10 * unit.bytes < exactLimit := by
    have hbytes := bytes_le unit
    unfold exactLimit
    omega
  calc
    100 = shownTenths (10 * unit.bytes) unit := (shownTenths_mul_bytes hexact).symm
    _ ≤ shownTenths size unit :=
      shownTenths_mono_of_whole hunit hten (fun htenths ↦ h.not_gt htenths.2.2) h

/-- In one unit the shown number grows with the size, whatever the pattern. -/
theorem shownTenths_mono (h : size ≤ larger) (unit : SizeUnit) :
    shownTenths size unit ≤ shownTenths larger unit := by
  by_cases hunit : unit = .byte
  · subst hunit
    rw [shownTenths_byte, shownTenths_byte]
    exact Nat.mul_le_mul_left 10 h
  by_cases hsize : HasTenths size unit
  · by_cases hlarger : HasTenths larger unit
    · rw [shownTenths, if_pos hsize, shownTenths, if_pos hlarger]
      exact places_shortest_scaled_mono 1 h unit
    · have hten : 10 * unit.bytes ≤ larger := by
        by_contra hlt
        exact hlarger ⟨hunit, by have := hsize.2.1; omega, not_le.1 hlt⟩
      calc
        shownTenths size unit ≤ 100 := shownTenths_le_hundred hsize
        _ ≤ shownTenths larger unit := hundred_le_shownTenths hunit hten
  · by_cases hlarger : HasTenths larger unit
    · have hlittle : 20 * size < unit.bytes := by
        by_contra hge
        exact hsize ⟨hunit, not_lt.1 hge, h.trans_lt hlarger.2.2⟩
      rw [shownTenths_eq_zero hunit hlittle]
      exact Nat.zero_le _
    · exact shownTenths_mono_of_whole hunit hsize hlarger h

/-! ## A change of the unit -/

/-- Up to a larger unit, no more is shown in a smaller one than the larger unit itself. -/
theorem shownTenths_mul_bytes_le {one other : SizeUnit} (hunits : one.bytes ≤ other.bytes)
    (h : size ≤ other.bytes) : shownTenths size one * one.bytes ≤ 10 * other.bytes := by
  obtain ⟨k, hk⟩ := SizeUnit.bytes_dvd_bytes hunits
  rw [mul_comm one.bytes k] at hk
  have hexact : k * one.bytes < exactLimit := by
    have hbytes := bytes_le other
    unfold exactLimit
    omega
  calc
    shownTenths size one * one.bytes ≤ shownTenths (k * one.bytes) one * one.bytes :=
      Nat.mul_le_mul_right _ (shownTenths_mono (hk ▸ h) one)
    _ = 10 * other.bytes := by rw [shownTenths_mul_bytes hexact, mul_assoc, hk]

/-- From a unit on, at least one of it is shown. -/
theorem ten_le_shownTenths (h : unit.bytes ≤ size) : 10 ≤ shownTenths size unit := by
  have hexact : 1 * unit.bytes < exactLimit := by
    have hbytes := bytes_le unit
    unfold exactLimit
    omega
  calc
    10 = shownTenths (1 * unit.bytes) unit := (shownTenths_mul_bytes hexact).symm
    _ ≤ shownTenths size unit := shownTenths_mono (by omega) unit

/-- Where the unit changes, the larger unit lies between the two sizes. -/
theorem bytes_forSize_between (h : size ≤ larger)
    (hunits : SizeUnit.forSize size ≠ SizeUnit.forSize larger) :
    size < (SizeUnit.forSize larger).bytes ∧ (SizeUnit.forSize larger).bytes ≤ larger := by
  have hlt : (SizeUnit.forSize size).bytes < (SizeUnit.forSize larger).bytes := by
    apply lt_of_le_of_ne (SizeUnit.bytes_forSize_mono h)
    exact fun heq ↦ hunits (SizeUnit.bytes_injective heq)
  have hbelow : ¬ (SizeUnit.forSize larger).bytes ≤ max size 1 := by
    rw [← SizeUnit.bytes_le_bytes_forSize_iff]
    exact hlt.not_ge
  have habove : (SizeUnit.forSize larger).bytes ≤ max larger 1 :=
    SizeUnit.bytes_le_bytes_forSize_iff.1 le_rfl
  omega

/-- Tenths of a byte that are shown, in the unit that suits each size. -/
theorem shownTenths_forSize_mono (h : size ≤ larger) :
    shownTenths size (SizeUnit.forSize size) * (SizeUnit.forSize size).bytes ≤
      shownTenths larger (SizeUnit.forSize larger) * (SizeUnit.forSize larger).bytes := by
  by_cases hunits : SizeUnit.forSize size = SizeUnit.forSize larger
  · rw [hunits]
    exact Nat.mul_le_mul_right _ (shownTenths_mono h _)
  · obtain ⟨hbelow, habove⟩ := bytes_forSize_between h hunits
    calc
      shownTenths size (SizeUnit.forSize size) * (SizeUnit.forSize size).bytes ≤
          10 * (SizeUnit.forSize larger).bytes :=
        shownTenths_mul_bytes_le (SizeUnit.bytes_forSize_mono h) hbelow.le
      _ ≤ shownTenths larger (SizeUnit.forSize larger) * (SizeUnit.forSize larger).bytes :=
        Nat.mul_le_mul_right _ (ten_le_shownTenths habove)

theorem showable_of_le_bytes {other : SizeUnit} (h : size ≤ other.bytes) : Showable size unit := by
  have hbytes := bytes_le other
  by_cases hunit : unit = .byte
  · subst hunit
    rw [showable_byte_iff]
    omega
  · rw [showable_iff_of_ne_byte hunit]
    calc
      scaled size unit ≤ 10 ^ 9 * Binary64.one :=
        scaled_le_mul_one (by norm_num) (by nlinarith [unit.bytes_pos])
      _ < 10 ^ 10 * Binary64.one := Nat.mul_lt_mul_of_pos_right (by norm_num) Binary64.one_pos
      _ ≤ digitLimit := by
        rw [digitLimit_eq_scaled]
        exact mul_one_le_scaled (by norm_num) (by norm_num [SizeUnit.bytes])

/-- A smaller size can be shown in its unit if a larger one can be shown in its own. -/
theorem showable_forSize_mono (h : size ≤ larger)
    (hshow : Showable larger (SizeUnit.forSize larger)) :
    Showable size (SizeUnit.forSize size) := by
  by_cases hunits : SizeUnit.forSize size = SizeUnit.forSize larger
  · rw [hunits]
    exact showable_mono h hshow
  · exact showable_of_le_bytes (bytes_forSize_between h hunits).1.le

/-- What is read of the text of a size. -/
theorem read?_format {f : SizeFormat} (hmark : f.mark.isDigit = false) (hblank : f.mark ≠ ' ')
    {count : ℤ} {text : String} (hformat : f.format count = .ok text) :
    read? f.mark text = some ⟨(shownTenths count.toNat (SizeUnit.forSize count.toNat) : ℚ) / 10,
      SizeUnit.forSize count.toNat⟩ := by
  obtain ⟨hlow, hshow⟩ := (exists_formatIn_iff f true).1 ⟨text, hformat⟩
  have htext := formatIn_of_showable f hlow hshow true
  rw [format, htext, if_pos rfl] at hformat
  rw [← Except.ok.inj hformat]
  exact read?_numberText hmark hblank

/-- A text with a mark that is neither a digit nor a blank is read as the quantity that was shown, and
the quantities keep the order of the sizes. -/
theorem exists_quantity_le {f : SizeFormat} (hmark : f.mark.isDigit = false) (hblank : f.mark ≠ ' ')
    {a b : ℤ} (ha : 0 ≤ a) (hab : a ≤ b) {larger : String} (hb : f.format b = .ok larger) :
    ∃ smaller small large, f.format a = .ok smaller ∧
      read? f.mark smaller = some small ∧ read? f.mark larger = some large ∧
      small.quantity ≤ large.quantity := by
  have hle : a.toNat ≤ b.toNat := Int.toNat_le_toNat hab
  obtain ⟨-, hshow⟩ := (exists_formatIn_iff f true).1 ⟨larger, hb⟩
  obtain ⟨smaller, hsmaller⟩ :=
    (exists_formatIn_iff f true).2 ⟨ha, showable_forSize_mono hle hshow⟩
  refine ⟨smaller, _, _, hsmaller, read?_format hmark hblank hsmaller,
    read?_format hmark hblank hb, ?_⟩
  have hmono : (shownTenths a.toNat (SizeUnit.forSize a.toNat) *
      (SizeUnit.forSize a.toNat).bytes : ℚ) ≤
        shownTenths b.toNat (SizeUnit.forSize b.toNat) * (SizeUnit.forSize b.toNat).bytes := by
    exact_mod_cast shownTenths_forSize_mono hle
  unfold Reading.quantity
  dsimp only
  linarith

/-- In the format of every locale: if a size can be shown, then so can every smaller one, and the
quantity that is read of its text is not larger. -/
theorem quantity_mono {value : Value} {f : SizeFormat} (hf : ofValue value = .ok f) {a b : ℤ}
    (ha : 0 ≤ a) (hab : a ≤ b) {larger : String} (hb : f.format b = .ok larger) :
    ∃ smaller small large, f.format a = .ok smaller ∧
      read? f.mark smaller = some small ∧ read? f.mark larger = some large ∧
      small.quantity ≤ large.quantity := by
  obtain ⟨hmark, hblank⟩ := mark_of_ofValue hf
  exact exists_quantity_le hmark hblank ha hab hb

/-- One byte below a megabyte a thousand kilobytes are shown, and with it one megabyte. -/
theorem quantity_mono_new_unit :
    ofValue (.text "de") = .ok ⟨⟨"de", ','⟩⟩ ∧ (0 : ℤ) ≤ 999999 ∧ (999999 : ℤ) ≤ 1000000 ∧
      SizeFormat.format ⟨⟨"de", ','⟩⟩ 1000000 = .ok "1,0 MB" ∧
      ∃ smaller small large, SizeFormat.format ⟨⟨"de", ','⟩⟩ 999999 = .ok smaller ∧
        read? ',' smaller = some small ∧ read? ',' "1,0 MB" = some large ∧
        small.quantity ≤ large.quantity := by
  have hf : ofValue (.text "de") = .ok ⟨⟨"de", ','⟩⟩ := rfl
  have hlarger : SizeFormat.format ⟨⟨"de", ','⟩⟩ 1000000 = .ok "1,0 MB" := by
    have hshow : Showable 1000000 .megabyte := showable_of_hasTenths (by decide)
    have hformat : SizeFormat.formatIn ⟨⟨"de", ','⟩⟩ (1000000 : ℕ) .megabyte true =
        .ok (numberText ',' 1000000 .megabyte ++ (" " ++ SizeUnit.megabyte.symbol)) :=
      formatIn_of_showable _ (Int.natCast_nonneg _) hshow true
    have htext : numberText ',' 1000000 .megabyte ++ (" " ++ SizeUnit.megabyte.symbol) =
        "1,0 MB" := by decide +kernel
    rw [htext] at hformat
    exact hformat
  exact ⟨hf, by decide, by decide, hlarger, quantity_mono hf (by decide) (by decide) hlarger⟩

end SizeFormat

end TransferReport
