import Mathlib.Tactic.SplitIfs
import TransferReport.Terminal.Line

/-!
# What is written after a blank

An emoji code has no blank in it, so a blank parts a message into two whose codes are replaced on
their own.  What follows the blank is written as it is if it has no colon, no tab and none of the
controls that are dropped, whatever stands before the blank.
-/

namespace TransferReport.Terminal

variable {names : EmojiNames} {c : Char} {s p cs code rest : List Char}

/-- A code is closed before the first blank or not at all. -/
theorem closeCode_append_space (p s : List Char) :
    closeCode (p ++ ' ' :: s) = (closeCode p).map fun split ↦ (split.1, split.2 ++ ' ' :: s) := by
  induction p with
  | nil =>
    have hopen : ¬ ' ' = ':' := by decide
    simp only [List.nil_append, closeCode, if_neg hopen, if_pos Text.isBlank_space]
    rfl
  | cons c p ih =>
    rw [List.cons_append, closeCode, closeCode, ih]
    split_ifs
    · rfl
    · rfl
    · cases closeCode p <;> rfl

theorem replaceEmojis_nil : replaceEmojis names [] = [] := by
  rw [replaceEmojis]

theorem replaceEmojis_cons_of_ne (h : c ≠ ':') (cs : List Char) :
    replaceEmojis names (c :: cs) = c :: replaceEmojis names cs := by
  rw [replaceEmojis, if_neg h]

theorem replaceEmojis_colon_of_closed (h : closeCode cs = some (code, rest)) :
    replaceEmojis names (':' :: cs) =
      (expandCode names code).getD (':' :: code ++ [':']) ++ replaceEmojis names rest := by
  rw [replaceEmojis, if_pos rfl]
  split
  · next code' rest' h' =>
    rw [h] at h'
    obtain ⟨rfl, rfl⟩ := Prod.mk.inj (Option.some.inj h')
    rfl
  · next h' =>
    rw [h] at h'
    cases h'

theorem replaceEmojis_colon_of_unclosed (h : closeCode cs = none) :
    replaceEmojis names (':' :: cs) = ':' :: replaceEmojis names cs := by
  rw [replaceEmojis, if_pos rfl]
  split
  · next code rest h' =>
    rw [h] at h'
    cases h'
  · rfl

/-- The codes before a blank and those after it are replaced on their own. -/
theorem replaceEmojis_append_space (p s : List Char) :
    replaceEmojis names (p ++ ' ' :: s) =
      replaceEmojis names p ++ ' ' :: replaceEmojis names s := by
  -- a code of the first part ends in it, so what is left of the first part is still a beginning
  fun_induction replaceEmojis names p with
  | case1 => exact replaceEmojis_cons_of_ne (by decide) s
  | case2 cs code rest closed _ ih =>
    have hclosed : closeCode (cs ++ ' ' :: s) = some (code, rest ++ ' ' :: s) := by
      rw [closeCode_append_space, closed]
      rfl
    rw [List.cons_append, replaceEmojis_colon_of_closed hclosed, ih, List.append_assoc]
  | case3 cs unclosed ih =>
    have hunclosed : closeCode (cs ++ ' ' :: s) = none := by
      rw [closeCode_append_space, unclosed]
      rfl
    rw [List.cons_append, replaceEmojis_colon_of_unclosed hunclosed, ih]
    rfl
  | case4 c cs hcolon ih =>
    rw [List.cons_append, replaceEmojis_cons_of_ne hcolon, ih]
    rfl

theorem replaceEmojis_of_notMem (h : ':' ∉ s) : replaceEmojis names s = s := by
  induction s with
  | nil => exact replaceEmojis_nil
  | cons c cs ih =>
    rw [List.mem_cons, not_or] at h
    rw [replaceEmojis_cons_of_ne (Ne.symm h.1), ih h.2]

theorem expandTabs_of_notMem (m : Text.Measure) (h : '\t' ∉ s) : expandTabs m s = s := by
  induction s generalizing m with
  | nil => rfl
  | cons c cs ih =>
    rw [List.mem_cons, not_or] at h
    rw [expandTabs, if_neg (Ne.symm h.1), ih {} h.2, ih (m.step c) h.2, ite_self]

/-- Tabs do not change what is written after the last of them. -/
theorem expandTabs_append (m : Text.Measure) (p : List Char) (h : '\t' ∉ s) :
    expandTabs m (p ++ s) = expandTabs m p ++ s := by
  induction p generalizing m with
  | nil => exact expandTabs_of_notMem m h
  | cons c p ih =>
    rw [List.cons_append, expandTabs, expandTabs, ih, ih]
    split_ifs
    · rw [List.append_assoc]
    · rfl
    · rfl

/-- Nothing in the text is replaced, dropped or moved. -/
def Inert (s : List Char) : Prop :=
  ∀ c ∈ s, c ≠ ':' ∧ c ≠ '\t' ∧ isCursorControl c = false

instance (s : List Char) : Decidable (Inert s) :=
  List.decidableBAll (fun c ↦ c ≠ ':' ∧ c ≠ '\t' ∧ isCursorControl c = false) s

theorem Inert.append (hs : Inert s) (hp : Inert p) : Inert (s ++ p) := by
  intro c hc
  rcases List.mem_append.1 hc with hleft | hright
  · exact hs c hleft
  · exact hp c hright

theorem inert_of_digits (h : ∀ c ∈ s, c.isDigit = true) : Inert s := by
  intro c hc
  have hdigit := h c hc
  have hlow : 48 ≤ c.toNat := by
    rw [Char.isDigit, Bool.and_eq_true, decide_eq_true_eq] at hdigit
    exact hdigit.1
  refine ⟨?_, ?_, ?_⟩
  · rintro rfl
    cases hdigit
  · rintro rfl
    cases hdigit
  · simp only [isCursorControl, Bool.or_eq_false_iff, decide_eq_false_iff_not]
    omega

/-- Whatever stands before a blank, inert text after it is written as it is. -/
theorem shown_append_of_inert (h : Inert s) (p : List Char) :
    shown names (p ++ ' ' :: s) = shown names p ++ ' ' :: s := by
  have hcolon : ':' ∉ s := fun hmem ↦ (h ':' hmem).1 rfl
  have htab : '\t' ∉ ' ' :: s := by
    rw [List.mem_cons, not_or]
    exact ⟨by decide, fun hmem ↦ (h '\t' hmem).2.1 rfl⟩
  have hcontrols : withoutControls (' ' :: s) = ' ' :: s := by
    apply List.filter_eq_self.2
    intro c hc
    rcases List.mem_cons.1 hc with rfl | hmem
    · decide
    · rw [(h c hmem).2.2, Bool.not_false]
  unfold shown
  rw [replaceEmojis_append_space, replaceEmojis_of_notMem hcolon, withoutControls,
    List.filter_append, ← withoutControls, ← withoutControls, hcontrols, expandTabs_append _ _ htab]

theorem println_append_of_inert {text : String} (h : Inert text.toList) (front : String) :
    println names (front ++ (" " ++ text)) =
      String.ofList (shown names front.toList) ++ (" " ++ text) ++ "\n" := by
  have hlist : (front ++ (" " ++ text)).toList = front.toList ++ ' ' :: text.toList := by
    rw [String.toList_append, String.toList_append]
    rfl
  have hend : String.ofList (' ' :: text.toList) = " " ++ text := by
    rw [← String.toList_inj, String.toList_ofList, String.toList_append]
    rfl
  rw [println, hlist, shown_append_of_inert h, String.ofList_append, hend]

end TransferReport.Terminal
