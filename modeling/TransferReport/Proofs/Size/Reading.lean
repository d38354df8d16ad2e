import TransferReport.Proofs.Fault
import TransferReport.Proofs.Size.Amount

/-!
# Reading a shown size

A shown size is read back as a number and a unit: digits, at most one decimal place behind the
decimal mark, a blank and the symbol of a unit.  Every text of the formatter can be read, and what
is read is the number that was written.  This needs a mark that is neither a digit nor a blank; the
marks of all locales are of this kind.
-/

namespace TransferReport.SizeFormat

open Number Number.Decimal

/-- The number that decimal digits stand for. -/
def natural? (s : List Char) : Option ℕ :=
  if !s.isEmpty && s.all Char.isDigit then some (Nat.ofDigitChars 10 s 0) else none

/-- The number that is written with at most one decimal place. -/
def number? (mark : Char) (s : List Char) : Option ℚ :=
  match s.dropWhile (· != mark) with
  | [] => (natural? s).map fun whole ↦ (whole : ℚ)
  | [_, place] => do
    let whole ← natural? (s.takeWhile (· != mark))
    let tenth ← natural? [place]
    pure (whole + tenth / 10)
  | _ => none

/-- A number of units. -/
structure Reading where
  number : ℚ
  unit : SizeUnit

/-- The quantity in bytes. -/
def Reading.quantity (r : Reading) : ℚ := r.number * r.unit.bytes

/-- The number and the unit that a text shows. -/
def read? (mark : Char) (text : String) : Option Reading := do
  let number ← number? mark (text.toList.takeWhile (· != ' '))
  let unit ← SizeUnit.all.find? fun unit ↦
    text.toList.dropWhile (· != ' ') = ' ' :: unit.symbol.toList
  pure ⟨number, unit⟩

theorem toList_toString (n : ℕ) : (toString n).toList = Nat.toDigits 10 n := by
  rw [Nat.toString_eq_repr, Nat.toList_repr]

theorem natural?_toDigits (n : ℕ) : natural? (Nat.toDigits 10 n) = some n := by
  have hempty : (Nat.toDigits 10 n).isEmpty = false :=
    List.isEmpty_eq_false_iff.2 Nat.toDigits_ne_nil
  have hdigits : (Nat.toDigits 10 n).all Char.isDigit = true := by
    rw [List.all_eq_true]
    intro c hc
    exact Nat.isDigit_of_mem_toDigits (by norm_num) (by norm_num) hc
  rw [natural?, hempty, hdigits, Bool.not_false, Bool.true_and, if_pos rfl,
    Nat.ofDigitChars_ten_toDigits]

/-- A character that is no digit is in no number. -/
theorem notMem_toDigits {c : Char} (h : c.isDigit = false) (n : ℕ) : c ∉ Nat.toDigits 10 n := by
  intro hmem
  have hdigit := Nat.isDigit_of_mem_toDigits (by norm_num) (by norm_num) hmem
  rw [h] at hdigit
  cases hdigit

theorem takeWhile_ne_append {c : Char} {s : List Char} (h : c ∉ s) (rest : List Char) :
    (s ++ rest).takeWhile (· != c) = s ++ rest.takeWhile (· != c) := by
  apply List.takeWhile_append_of_pos
  intro d hd
  exact bne_iff_ne.2 fun hdc ↦ h (hdc ▸ hd)

theorem dropWhile_ne_append {c : Char} {s : List Char} (h : c ∉ s) (rest : List Char) :
    (s ++ rest).dropWhile (· != c) = rest.dropWhile (· != c) := by
  apply List.dropWhile_append_of_pos
  intro d hd
  exact bne_iff_ne.2 fun hdc ↦ h (hdc ▸ hd)

variable {mark : Char} {size : ℕ} {unit : SizeUnit}

theorem number?_toDigits (hmark : mark.isDigit = false) (n : ℕ) :
    number? mark (Nat.toDigits 10 n) = some (n : ℚ) := by
  have hrest : (Nat.toDigits 10 n).dropWhile (· != mark) = [] := by
    have hdrop := dropWhile_ne_append (notMem_toDigits hmark n) []
    rwa [List.append_nil] at hdrop
  unfold number?
  rw [hrest, natural?_toDigits]
  rfl

theorem number?_tenths (hmark : mark.isDigit = false) (n : ℕ) :
    number? mark (Nat.toDigits 10 (n / 10) ++ mark :: Nat.toDigits 10 (n % 10)) =
      some ((n : ℚ) / 10) := by
  have hwhole := notMem_toDigits hmark (n / 10)
  have hplace : Nat.toDigits 10 (n % 10) = [Nat.digitChar (n % 10)] :=
    Nat.toDigits_of_lt_base (Nat.mod_lt n (by norm_num))
  have hread : natural? [Nat.digitChar (n % 10)] = some (n % 10) := by
    rw [← hplace, natural?_toDigits]
  have hvalue : ((n / 10 : ℕ) : ℚ) + ((n % 10 : ℕ) : ℚ) / 10 = n / 10 := by
    have hn : (10 * (n / 10 : ℕ) + (n % 10 : ℕ) : ℚ) = n := by exact_mod_cast Nat.div_add_mod n 10
    rw [← hn]
    ring
  unfold number?
  rw [dropWhile_ne_append hwhole, takeWhile_ne_append hwhole, hplace,
    List.dropWhile_cons_of_neg (by simp), List.takeWhile_cons_of_neg (by simp),
    List.append_nil, natural?_toDigits]
  dsimp only
  rw [hread]
  exact congrArg some hvalue

theorem toList_numberText_of_hasTenths (mark : Char) (h : HasTenths size unit) :
    (numberText mark size unit).toList = Nat.toDigits 10 (shownTenths size unit / 10) ++
      mark :: Nat.toDigits 10 (shownTenths size unit % 10) := by
  rw [numberText, if_pos h]
  simp only [String.toList_append, String.toList_singleton, toList_toString, List.append_assoc,
    List.singleton_append]

theorem toList_numberText_of_whole (mark : Char) (h : ¬ HasTenths size unit) :
    (numberText mark size unit).toList = Nat.toDigits 10 (shownTenths size unit / 10) := by
  rw [numberText, if_neg h, toList_toString]

/-- A number without a decimal place is shown in full. -/
theorem ten_dvd_shownTenths (h : ¬ HasTenths size unit) : 10 ∣ shownTenths size unit := by
  rw [shownTenths, if_neg h]
  split
  · exact Nat.dvd_mul_right 10 _
  · exact Nat.dvd_mul_right 10 _

theorem number?_numberText (hmark : mark.isDigit = false) :
    number? mark (numberText mark size unit).toList = some ((shownTenths size unit : ℚ) / 10) := by
  by_cases h : HasTenths size unit
  · rw [toList_numberText_of_hasTenths mark h, number?_tenths hmark]
  · obtain ⟨n, hn⟩ := ten_dvd_shownTenths h
    rw [toList_numberText_of_whole mark h, number?_toDigits hmark, hn,
      Nat.mul_div_cancel_left n (by norm_num)]
    push_cast
    rw [mul_div_cancel_left₀ _ (by norm_num)]

/-- A number is written with digits and the mark alone. -/
theorem notMem_numberText {c : Char} (hdigit : c.isDigit = false) (hmark : mark ≠ c) (size : ℕ)
    (unit : SizeUnit) : c ∉ (numberText mark size unit).toList := by
  have hdigits (n : ℕ) : c ∉ Nat.toDigits 10 n := notMem_toDigits hdigit n
  by_cases h : HasTenths size unit
  · rw [toList_numberText_of_hasTenths mark h]
    simp only [List.mem_append, List.mem_cons, not_or]
    exact ⟨hdigits _, hmark.symm, hdigits _⟩
  · rw [toList_numberText_of_whole mark h]
    exact hdigits _

/-- The symbols of different units differ. -/
theorem find?_symbol (unit : SizeUnit) :
    (SizeUnit.all.find? fun other ↦ ' ' :: unit.symbol.toList = ' ' :: other.symbol.toList) =
      some unit := by
  cases unit <;> decide

/-- What is read of a number and a symbol. -/
theorem read?_numberText (hmark : mark.isDigit = false) (hblank : mark ≠ ' ') :
    read? mark (numberText mark size unit ++ (" " ++ unit.symbol)) =
      some ⟨(shownTenths size unit : ℚ) / 10, unit⟩ := by
  have hnumber := notMem_numberText (by decide) hblank size unit
  have htext : (numberText mark size unit ++ (" " ++ unit.symbol)).toList =
      (numberText mark size unit).toList ++ ' ' :: unit.symbol.toList := by
    rw [String.toList_append, String.toList_append]
    rfl
  unfold read?
  rw [htext, takeWhile_ne_append hnumber, dropWhile_ne_append hnumber,
    List.dropWhile_cons_of_neg (by simp), List.takeWhile_cons_of_neg (by simp),
    List.append_nil, number?_numberText hmark, find?_symbol]
  rfl

/-! ## The marks of locales -/

theorem mark?_mem {base : String} {mark : Char} (h : Locale.mark? base = some mark) :
    mark ∈ ['.', ',', Char.ofNat 0x66B] := by
  unfold Locale.mark? at h
  split at h
  · cases h
    exact List.mem_cons_self
  · split at h
    · cases h
      decide
    · split at h
      · cases h
        decide
      · cases h

theorem resolve_mark_mem {id : Locale.Identifier} {locale : Locale}
    (h : Locale.resolve id = .ok locale) : locale.mark ∈ ['.', ',', Char.ofNat 0x66B] := by
  unfold Locale.resolve at h
  split at h
  · cases h
    exact mark?_mem ‹_›
  · split at h
    · split at h
      · cases h
        exact mark?_mem ‹_›
      · cases h
    · cases h

theorem ofValue_mark_mem {value : Value} {locale : Locale} (h : Locale.ofValue value = .ok locale) :
    locale.mark ∈ ['.', ',', Char.ofNat 0x66B] := by
  unfold Locale.ofValue Locale.parse at h
  split at h
  · cases h
  · split at h
    · obtain ⟨id, -, hresolve⟩ := exists_of_bind_eq_ok h
      exact resolve_mark_mem hresolve
    · cases h

theorem mark_mem_of_ofValue {value : Value} {f : SizeFormat} (h : ofValue value = .ok f) :
    f.mark ∈ ['.', ',', Char.ofNat 0x66B] := by
  obtain ⟨locale, hlocale, rfl⟩ := exists_of_map_eq_ok h
  exact ofValue_mark_mem hlocale

/-- What holds of the three marks holds of the mark of a format. -/
theorem forall_mark {P : Char → Prop} {value : Value} {f : SizeFormat} (h : ofValue value = .ok f)
    (hpoint : P '.') (hcomma : P ',') (harabic : P (Char.ofNat 0x66B)) : P f.mark := by
  have hmarks : ∀ mark ∈ ['.', ',', Char.ofNat 0x66B], P mark := by
    rw [List.forall_mem_cons, List.forall_mem_cons, List.forall_mem_singleton]
    exact ⟨hpoint, hcomma, harabic⟩
  exact hmarks _ (mark_mem_of_ofValue h)

/-- The mark of a format is that of a locale, so it is neither a digit nor a blank. -/
theorem mark_of_ofValue {value : Value} {f : SizeFormat} (h : ofValue value = .ok f) :
    f.mark.isDigit = false ∧ f.mark ≠ ' ' :=
  forall_mark (P := fun mark ↦ mark.isDigit = false ∧ mark ≠ ' ') h (by decide) (by decide)
    (by decide)

end TransferReport.SizeFormat
