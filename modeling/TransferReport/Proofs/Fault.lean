import TransferReport.Fault
import TransferReport.Proofs.Text.Numeral

/-!
# Computations that may fail

A chain of computations gives a result exactly when each of its parts does, and its fault is that of
one of the parts.  A refusal whose wording cannot be finished is a fault of another class.
-/

namespace TransferReport

namespace Fault

variable {n part whole : ℤ}

/-- The class of a refusal whose wording quotes an integer. -/
def refusalClass (n : ℤ) : ErrorClass :=
  if Text.isWritable n then .invalidArgument else .value

theorem refusalClass_eq_invalidArgument_iff :
    refusalClass n = .invalidArgument ↔ Text.isWritable n := by
  simp [refusalClass]

theorem refusalClass_eq_value_iff : refusalClass n = .value ↔ ¬ Text.isWritable n := by
  simp [refusalClass]

/-- A refusal keeps its class as long as the integer that it quotes can be written. -/
theorem errorClass_raised_of_refusal {fault : Fault} (refused : fault.errorClass = .invalidArgument)
    (hquoted : fault.integers.all Text.isWritable = Text.isWritable n) :
    fault.raised.errorClass = refusalClass n := by
  rw [errorClass_raised, hquoted, refused]
  rfl

theorem errorClass_negativeSize (n : ℤ) : (negativeSize n).raised.errorClass = refusalClass n :=
  errorClass_raised_of_refusal rfl (Bool.and_true _)

theorem errorClass_negativeProgress (n : ℤ) :
    (negativeProgress n).raised.errorClass = refusalClass n :=
  errorClass_raised_of_refusal rfl (Bool.and_true _)

/-- Of a part and a smaller whole the part is the longer one. -/
theorem errorClass_progressBeyondTotal (hwhole : 0 ≤ whole) (h : whole < part) :
    (progressBeyondTotal part whole).raised.errorClass = refusalClass part := by
  apply errorClass_raised_of_refusal rfl
  rw [integers, List.all_cons, List.all_cons, List.all_nil, Bool.and_true,
    Bool.and_eq_left_iff_imp]
  exact Text.isWritable_of_le (by omega)

end Fault

variable {α β : Type}

theorem exists_of_bind_eq_ok {x : Except Fault α} {g : α → Except Fault β} {b : β}
    (h : x.bind g = .ok b) : ∃ a, x = .ok a ∧ g a = .ok b := by
  cases x with
  | error fault => cases h
  | ok a => exact ⟨a, rfl, h⟩

theorem exists_of_map_eq_ok {x : Except Fault α} {g : α → β} {b : β} (h : x.map g = .ok b) :
    ∃ a, x = .ok a ∧ g a = b := by
  cases x with
  | error fault => cases h
  | ok a => exact ⟨a, rfl, Except.ok.inj h⟩

theorem exists_of_isOk {x : Except Fault α} (h : x.isOk = true) : ∃ a, x = .ok a := by
  cases x with
  | error fault => cases h
  | ok a => exact ⟨a, rfl⟩

theorem bind_ne_error {x : Except Fault α} {g : α → Except Fault β} {fault : Fault}
    (hx : x ≠ .error fault) (hg : ∀ a, g a ≠ .error fault) : x >>= g ≠ .error fault := by
  cases x with
  | error other => exact fun h ↦ hx (congrArg Except.error (Except.error.inj h))
  | ok a => exact hg a

/-- Two computations give related results or meet the same fault. -/
inductive Alike (R : α → α → Prop) : Except Fault α → Except Fault α → Prop
  | ok {a b : α} (h : R a b) : Alike R (.ok a) (.ok b)
  | error (fault : Fault) : Alike R (.error fault) (.error fault)

namespace Alike

variable {R : α → α → Prop} {S : β → β → Prop} {x y : Except Fault α}

theorem imp {R' : α → α → Prop} (h : Alike R x y) (himp : ∀ a b, R a b → R' a b) :
    Alike R' x y := by
  cases h with
  | ok h => exact .ok (himp _ _ h)
  | error fault => exact .error fault

theorem map {g g' : α → β} (h : Alike R x y) (hg : ∀ a b, R a b → S (g a) (g' b)) :
    Alike S (x.map g) (y.map g') := by
  cases h with
  | ok h => exact .ok (hg _ _ h)
  | error fault => exact .error fault

theorem bind {g g' : α → Except Fault β} (h : Alike R x y)
    (hg : ∀ a b, R a b → Alike S (g a) (g' b)) : Alike S (x >>= g) (y >>= g') := by
  cases h with
  | ok h => exact hg _ _ h
  | error fault => exact .error fault

/-- Two computations that begin with the same one. -/
theorem bind_left (x : Except Fault α) {g g' : α → Except Fault β}
    (hg : ∀ a, Alike S (g a) (g' a)) : Alike S (x >>= g) (x >>= g') := by
  cases x with
  | ok a => exact hg a
  | error fault => exact .error fault

end Alike

end TransferReport
