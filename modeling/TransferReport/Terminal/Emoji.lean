import TransferReport.Text.Blank
import TransferReport.Text.Case.Lower

/-!
# Emoji codes

A name between two colons stands for an emoji; after the name a hyphen with `emoji` or `text` may
ask for one of its two forms.  Codes are found from left to right without overlap, and a code of
an unknown name stays as it is, both its colons included.  Which names are known is a parameter;
`emoji?` knows a few of them.
-/

namespace TransferReport.Terminal

/-- What the known names stand for. -/
abbrev EmojiNames := List Char → Option (List Char)

def emojis : List (String × Char) :=
  [("smile", Char.ofNat 0x1F604), ("rocket", Char.ofNat 0x1F680), ("x", Char.ofNat 0x274C),
   ("heart", Char.ofNat 0x2764)]

def emoji? : EmojiNames := fun name =>
  (emojis.lookup (String.ofList (name.map Text.foldLower))).map fun c => [c]

/-- The forms that a code can ask for, and the selectors for them. -/
def emojiForms : List (List Char × Char) :=
  [(['-', 't', 'e', 'x', 't'], Char.ofNat 0xFE0E),
   (['-', 'e', 'm', 'o', 'j', 'i'], Char.ofNat 0xFE0F)]

def expandCode (names : EmojiNames) (code : List Char) : Option (List Char) :=
  match emojiForms.find? fun form => form.1.isSuffixOf code with
  | some form => (names (code.take (code.length - form.1.length))).map fun text => text ++ [form.2]
  | none => names code

/-- The text up to the next colon and the text after it, if no blank comes before. -/
def closeCode : List Char → Option (List Char × List Char)
  | [] => none
  | c :: cs =>
    if c = ':' then some ([], cs)
    else if Text.isBlank c then none
    else (closeCode cs).map fun split => (c :: split.1, split.2)

theorem length_lt_of_closeCode {s code rest : List Char} (h : closeCode s = some (code, rest)) :
    rest.length < s.length := by
  induction s generalizing code with
  | nil => simp [closeCode] at h
  | cons c cs ih =>
    unfold closeCode at h
    split at h
    · obtain ⟨-, rfl⟩ := Prod.mk.inj (Option.some.inj h)
      simp
    · split at h
      · simp at h
      · obtain ⟨⟨code', rest'⟩, hsplit, heq⟩ := Option.map_eq_some_iff.1 h
        obtain ⟨-, rfl⟩ := Prod.mk.inj heq
        exact Nat.lt_succ_of_lt (ih hsplit)

/-- The text with its known emoji codes replaced. -/
def replaceEmojis (names : EmojiNames) : List Char → List Char
  | [] => []
  | c :: cs =>
    if c = ':' then
      match h : closeCode cs with
      | some (code, rest) =>
        have : rest.length < cs.length + 1 := Nat.lt_succ_of_lt (length_lt_of_closeCode h)
        (expandCode names code).getD (':' :: code ++ [':']) ++ replaceEmojis names rest
      | none => c :: replaceEmojis names cs
    else c :: replaceEmojis names cs
termination_by s => s.length

end TransferReport.Terminal
