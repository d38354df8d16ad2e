import TransferReport.Proofs.Message.Plain

/-!
# The throughput of a transfer

Between two whole readings of the clock the throughput is the floor of the exact quotient of bytes
and seconds, although the division is rounded to a double before the fraction is dropped.  This
holds below `2 ^ 53` bytes and for every duration, however long, and the throughput can then always
be shown.
-/

namespace TransferReport.Message

variable {e : Event} {now began : ℤ}

/-- Nothing is divided before time has passed. -/
theorem rate_of_le (start : e.resource.start = .int began) (h : now ≤ began) :
    rate (.int now) e = .ok none := by
  have hpassed : (Number.int (now - began)).nonpositive = true :=
    decide_eq_true (Int.sub_nonpos_of_le h)
  rw [rate, start]
  exact if_pos hpassed

theorem rate_of_lt (start : e.resource.start = .int began) (low : 0 ≤ e.transferred)
    (high : e.transferred < 2 ^ 53) (h : began < now) :
    rate (.int now) e = .ok (some ⌊(e.transferred / (now - began) : ℚ)⌋) := by
  have hpos : 0 < now - began := Int.sub_pos_of_lt h
  have hlasts : ¬ (Number.int (now - began)).nonpositive = true := by
    rw [Number.nonpositive, decide_eq_true_iff]
    exact hpos.not_ge
  have hwhole := Number.integerPart_quotient low high hpos
  rw [Int.cast_sub] at hwhole
  rw [rate, start]
  refine (if_neg hlasts).trans ?_
  rw [← bind_assoc, hwhole]
  rfl

/-- A throughput is no more than what has been transferred. -/
theorem floor_quotient_range (low : 0 ≤ e.transferred) (h : began < now) :
    0 ≤ ⌊(e.transferred / (now - began) : ℚ)⌋ ∧
      ⌊(e.transferred / (now - began) : ℚ)⌋ ≤ e.transferred := by
  have hcount : (0 : ℚ) ≤ e.transferred := by exact_mod_cast low
  have hlong : (1 : ℚ) ≤ now - began := by exact_mod_cast Int.sub_pos_of_lt h
  constructor
  · exact Int.floor_nonneg.2 (div_nonneg hcount (zero_le_one.trans hlong))
  · calc
      ⌊(e.transferred / (now - began) : ℚ)⌋ ≤ ⌊(e.transferred : ℚ)⌋ :=
        Int.floor_mono (div_le_self hcount hlong)
      _ = e.transferred := Int.floor_intCast _

/-- A transfer that began before the clock's reading has the floor of the exact quotient of its
bytes and its duration as throughput, and this can be shown; any other one has none. -/
theorem throughput_eq_floor (f : SizeFormat) (now : ℤ) (start : e.resource.start = .int began)
    (low : 0 ≤ e.transferred) (high : e.transferred < 2 ^ 53) :
    (now ≤ began → throughput f (.int now) e = .ok "") ∧
      (began < now → ∃ size, f.format ⌊(e.transferred / (now - began) : ℚ)⌋ = .ok size ∧
        throughput f (.int now) e = .ok (" at " ++ size ++ "/s")) := by
  constructor
  · intro h
    rw [throughput, rate_of_le start h]
    rfl
  · intro h
    obtain ⟨hlow, hhigh⟩ := floor_quotient_range low h
    have hrange : e.transferred ≤ 2 ^ 120 := high.le.trans (by norm_num)
    obtain ⟨size, hsize⟩ := SizeFormat.exists_format f hlow (hhigh.trans hrange)
    refine ⟨size, hsize, ?_⟩
    rw [throughput, rate_of_lt start low high h]
    change f.format _ >>= _ = _
    rw [hsize]
    rfl

/-- A download at a whole moment. -/
def received (transferred began : ℤ) : Event :=
  ⟨.download, ⟨"central", "https://r/", "a.jar", -1, .int began⟩, transferred, none⟩

/-- Just below 999 bytes a second; the double of the quotient is the last one before 999. -/
theorem throughput_eq_floor_below999 :
    (received 9007199254740788 0).resource.start = .int 0 ∧
      0 ≤ (received 9007199254740788 0).transferred ∧
      (received 9007199254740788 0).transferred < 2 ^ 53 ∧ (0 : ℤ) < 9016215470211 ∧
      throughput ⟨.english⟩ (.int 9016215470211) (received 9007199254740788 0) =
        .ok " at 998 B/s" := by
  have hfloor : ⌊((received 9007199254740788 0).transferred /
      ((9016215470211 : ℤ) - (0 : ℤ)) : ℚ)⌋ = 998 := by
    rw [Int.floor_eq_iff]
    norm_num [received]
  have hformat : SizeFormat.format ⟨.english⟩ (998 : ℕ) = .ok "998 B" := by
    have hshow : SizeFormat.Showable 998 .byte := SizeFormat.showable_byte_iff.2 (by norm_num)
    exact SizeFormat.formatIn_of_showable ⟨.english⟩ (Int.natCast_nonneg 998) hshow true
  obtain ⟨size, hsize, hthroughput⟩ :=
    (throughput_eq_floor ⟨.english⟩ 9016215470211 (e := received 9007199254740788 0) rfl
      (by decide) (by decide)).2 (by decide)
  rw [hfloor] at hsize
  obtain rfl : size = "998 B" := Except.ok.inj (hsize.symm.trans hformat)
  exact ⟨rfl, by decide, by decide, by decide, hthroughput⟩

/-- Three bytes above `2 ^ 53` half of them are rounded up to the next integer. -/
example : (rate (.int 2) (received (2 ^ 53 + 3) 0)).toOption = some (some (2 ^ 52 + 2)) := by
  decide +kernel

end TransferReport.Message
