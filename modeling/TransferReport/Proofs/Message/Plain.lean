import TransferReport.Message
import TransferReport.Proofs.Number.Duration
import TransferReport.Proofs.Size.Range

/-!
# Messages of plain events

An event is plain when the name of its resource has no opening bracket and its numbers are below
`10 ^ 30`.  The text of its progress can always be made, and the line about its success whenever the
time since the start is not too short to divide by: its throughput is then in range as well.
-/

namespace TransferReport

/-- Nothing in the event keeps it from being shown. -/
structure Event.Plain (e : Event) : Prop where
  name : '[' ∉ e.resource.name.toList
  length : e.resource.length < 10 ^ 30
  transferred_nonneg : 0 ≤ e.transferred
  transferred_lt : e.transferred < 10 ^ 30

instance (e : Event) : Decidable e.Plain :=
  decidable_of_iff
    ('[' ∉ e.resource.name.toList ∧ e.resource.length < 10 ^ 30 ∧ 0 ≤ e.transferred ∧
      e.transferred < 10 ^ 30)
    ⟨fun ⟨name, length, low, high⟩ ↦ ⟨name, length, low, high⟩,
      fun plain ↦ ⟨plain.name, plain.length, plain.transferred_nonneg, plain.transferred_lt⟩⟩

/-- The same event with another part transferred. -/
def Event.withTransferred (e : Event) (transferred : ℤ) : Event :=
  { e with transferred := transferred }

namespace Event.Plain

variable {e other : Event} {clock : Number}

/-- The part may be that of another plain event. -/
theorem withTransferred (plain : e.Plain) (part : other.Plain) :
    (e.withTransferred other.transferred).Plain :=
  ⟨plain.name, plain.length, part.transferred_nonneg, part.transferred_lt⟩

theorem restart (plain : e.Plain) : (e.withTransferred 0).Plain :=
  ⟨plain.name, plain.length, le_rfl, pow_pos (by decide) 30⟩

/-- A throughput, if there is one, is in range. -/
theorem exists_rate (plain : e.Plain) (elapsed : Number.Elapsed clock e.resource.start) :
    ∃ rate, Message.rate clock e = .ok rate ∧ ∀ n ∈ rate, 0 ≤ n ∧ n ≤ 2 ^ 120 := by
  obtain ⟨duration, hsub, hduration⟩ := elapsed
  unfold Message.rate
  rw [hsub]
  by_cases hpassed : duration.nonpositive
  · refine ⟨none, if_pos hpassed, fun n hn ↦ ?_⟩
    cases hn
  · have hlasts : duration.Lasts := hduration.resolve_left hpassed
    have hrange : e.transferred ≤ 2 ^ 100 := plain.transferred_lt.le.trans (by norm_num)
    obtain ⟨units, hquotient, hunits⟩ :=
      Number.exists_quotient plain.transferred_nonneg hrange hlasts
    refine ⟨some (Number.Binary64.truncate false units), ?_, fun n hn ↦ ?_⟩
    · refine (if_neg hpassed).trans ?_
      rw [hquotient]
      rfl
    · obtain rfl := Option.some.inj hn
      exact Number.Binary64.truncate_false_le hunits

theorem exists_throughput (plain : e.Plain) (elapsed : Number.Elapsed clock e.resource.start)
    (f : SizeFormat) : ∃ text, Message.throughput f clock e = .ok text := by
  obtain ⟨rate, hrate, hrange⟩ := plain.exists_rate elapsed
  unfold Message.throughput
  rw [hrate]
  cases rate with
  | none => exact ⟨"", rfl⟩
  | some perSecond =>
    obtain ⟨hlow, hhigh⟩ := hrange perSecond rfl
    obtain ⟨size, hsize⟩ := SizeFormat.exists_format f hlow hhigh
    refine ⟨" at " ++ size ++ "/s", ?_⟩
    change f.format perSecond >>= _ = _
    rw [hsize]
    rfl

theorem exists_succeeded (plain : e.Plain) (elapsed : Number.Elapsed clock e.resource.start)
    (f : SizeFormat) : ∃ text, Message.succeeded f clock e = .ok text := by
  have hrange : e.transferred ≤ 2 ^ 120 := plain.transferred_lt.le.trans (by norm_num)
  obtain ⟨size, hsize⟩ := SizeFormat.exists_format f plain.transferred_nonneg hrange
  obtain ⟨speed, hspeed⟩ := plain.exists_throughput elapsed f
  unfold Message.succeeded
  rw [hsize, hspeed]
  exact ⟨_, rfl⟩

end Event.Plain

end TransferReport
