import Mathlib.Data.List.Forall2
import TransferReport.Proofs.Size.Faults
import TransferReport.Proofs.Terminal.Line

/-!
# Sizes in two locales

A locale enters the text of a size as the mark and nowhere else.  So two formats fail alike, and
their texts differ where the one has its mark and the other its own.  The mark of a locale is as
inert as the digits around it, so a terminal leaves the text of a size as it is.
-/

namespace TransferReport

/-- The texts are the same except where the first one has its mark and the second one the other. -/
def SameButMark (mark other : Char) (s t : String) : Prop :=
  List.Forall₂ (fun c d ↦ c = d ∨ c = mark ∧ d = other) s.toList t.toList

/-- The texts are the same but for the mark, and a terminal leaves them as they are. -/
structure SameSize (mark other : Char) (s t : String) : Prop where
  same : SameButMark mark other s t
  inert : Terminal.Inert s.toList
  inertOther : Terminal.Inert t.toList

variable {mark other : Char} {s s' t t' : String}

theorem SameButMark.refl (mark other : Char) (s : String) : SameButMark mark other s s :=
  List.forall₂_same.2 fun _ _ ↦ .inl rfl

theorem SameButMark.append (h : SameButMark mark other s t) (h' : SameButMark mark other s' t') :
    SameButMark mark other (s ++ s') (t ++ t') := by
  unfold SameButMark
  rw [String.toList_append, String.toList_append]
  exact List.rel_append h h'

theorem SameSize.refl (mark other : Char) (h : Terminal.Inert s.toList) :
    SameSize mark other s s :=
  ⟨.refl mark other s, h, h⟩

theorem SameSize.append (h : SameSize mark other s t) (h' : SameSize mark other s' t') :
    SameSize mark other (s ++ s') (t ++ t') := by
  refine ⟨h.same.append h'.same, ?_, ?_⟩
  · rw [String.toList_append]
    exact h.inert.append h'.inert
  · rw [String.toList_append]
    exact h.inertOther.append h'.inertOther

namespace SizeFormat

open Terminal (Inert)

variable {f g : SizeFormat}

theorem inert_toDigits (n : ℕ) : Inert (Nat.toDigits 10 n) :=
  Terminal.inert_of_digits fun _ ↦ Nat.isDigit_of_mem_toDigits (by norm_num) (by norm_num)

theorem inert_numberText (hmark : Inert [mark]) (size : ℕ) (unit : SizeUnit) :
    Inert (numberText mark size unit).toList := by
  by_cases h : HasTenths size unit
  · rw [toList_numberText_of_hasTenths mark h, ← List.singleton_append]
    exact (inert_toDigits _).append (hmark.append (inert_toDigits _))
  · rw [toList_numberText_of_whole mark h]
    exact inert_toDigits _

theorem sameButMark_numberText (mark other : Char) (size : ℕ) (unit : SizeUnit) :
    SameButMark mark other (numberText mark size unit) (numberText other size unit) := by
  have hdigits (n : ℕ) : List.Forall₂ (fun c d ↦ c = d ∨ c = mark ∧ d = other)
      (Nat.toDigits 10 n) (Nat.toDigits 10 n) :=
    List.forall₂_same.2 fun _ _ ↦ .inl rfl
  by_cases h : HasTenths size unit
  · rw [SameButMark, toList_numberText_of_hasTenths mark h, toList_numberText_of_hasTenths other h]
    exact List.rel_append (hdigits _) (.cons (.inr ⟨rfl, rfl⟩) (hdigits _))
  · rw [SameButMark, toList_numberText_of_whole mark h, toList_numberText_of_whole other h]
    exact hdigits _

theorem sameSize_numberText (hmark : Inert [mark]) (hother : Inert [other]) (size : ℕ)
    (unit : SizeUnit) :
    SameSize mark other (numberText mark size unit) (numberText other size unit) :=
  ⟨sameButMark_numberText mark other size unit, inert_numberText hmark size unit,
    inert_numberText hother size unit⟩

theorem alike_formatIn (hf : Inert [f.mark]) (hg : Inert [g.mark]) (size : ℤ) (unit : SizeUnit)
    (symbol : Bool) :
    Alike (SameSize f.mark g.mark) (f.formatIn size unit symbol) (g.formatIn size unit symbol) := by
  by_cases hlow : 0 ≤ size
  · by_cases hshow : Showable size.toNat unit
    · rw [formatIn_of_showable f hlow hshow, formatIn_of_showable g hlow hshow]
      refine .ok ((sameSize_numberText hf hg _ _).append (.refl _ _ ?_))
      cases symbol <;> cases unit <;> decide
    · rw [formatIn_of_not_showable f hlow hshow, formatIn_of_not_showable g hlow hshow]
      exact .error _
  · rw [formatIn_of_neg f (not_le.1 hlow), formatIn_of_neg g (not_le.1 hlow)]
    exact .error _

theorem alike_format (hf : Inert [f.mark]) (hg : Inert [g.mark]) (size : ℤ) :
    Alike (SameSize f.mark g.mark) (f.format size) (g.format size) :=
  alike_formatIn hf hg size _ true

theorem alike_progress (hf : Inert [f.mark]) (hg : Inert [g.mark]) (part whole : ℤ) :
    Alike (SameSize f.mark g.mark) (f.progress part whole) (g.progress part whole) := by
  unfold progress
  split_ifs
  · exact .error _
  · exact .error _
  · apply (alike_formatIn hf hg part _ false).bind
    intro s t hpart
    apply (alike_formatIn hf hg whole _ true).bind
    intro s' t' hwhole
    exact .ok ((hpart.append (.refl _ _ (by decide))).append hwhole)
  · exact alike_format hf hg part

theorem inert_mark_of_ofValue {value : Value} (hf : ofValue value = .ok f) : Inert [f.mark] :=
  forall_mark (P := fun mark ↦ Inert [mark]) hf (by decide) (by decide) (by decide)

end SizeFormat

end TransferReport
