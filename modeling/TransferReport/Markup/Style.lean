import TransferReport.Markup.Colour
import TransferReport.Text.Blank

/-!
# Names of styles

A tag names a style.  A description made of style words has a usual form, in which abbreviations
are written out and the attributes stand in a fixed order; two tags belong together when their
usual forms are equal.  Any other name is taken in lower case and without blanks around it.  A
description ends at the first word without a meaning, so a fault of a colour after it is not met.
-/

namespace TransferReport.Markup

/-- The attributes of a style in their usual order, each with the words for it. -/
def features : List (String × List String) :=
  [("bold", ["bold", "b"]), ("dim", ["dim", "d"]), ("italic", ["italic", "i"]),
   ("underline", ["underline", "u"]), ("blink", ["blink"]), ("blink2", ["blink2"]),
   ("reverse", ["reverse", "r"]), ("conceal", ["conceal", "c"]), ("strike", ["strike", "s"]),
   ("underline2", ["underline2", "uu"]), ("frame", ["frame"]), ("encircle", ["encircle"]),
   ("overline", ["overline", "o"])]

def feature? (word : String) : Option String :=
  (features.find? fun entry => entry.2.contains word).map fun entry => entry.1

/-- What a description asks for: attributes set or cleared, colours and a link. -/
structure Style where
  set : List (String × Bool)
  colour : Option String
  background : Option String
  link : Option String

/-- Reads a description word by word; `none` when a word has no meaning. -/
def Style.read? : List String → Except Fault (Option Style)
  | [] => .ok (some ⟨[], none, none, none⟩)
  | word :: rest =>
    let word := String.ofList (Text.lower word.toList)
    if word = "on" then
      match rest with
      | [] => .ok none
      | colour :: rest => do
        match ← colour? colour with
        | some colour =>
          let style? ← read? rest
          pure (style?.map fun s => { s with background := s.background.or (some colour) })
        | none => pure none
    else if word = "not" then
      match rest with
      | [] => .ok none
      | name :: rest =>
        match feature? name with
        | some feature => do
          let style? ← read? rest
          pure (style?.map fun s => { s with set := s.set ++ [(feature, false)] })
        | none => .ok none
    else if word = "link" then
      match rest with
      | [] => .ok none
      | link :: rest => do
        let style? ← read? rest
        pure (style?.map fun s => { s with link := s.link.or (some link) })
    else
      match feature? word with
      | some feature => do
        let style? ← read? rest
        pure (style?.map fun s => { s with set := s.set ++ [(feature, true)] })
      | none => do
        match ← colour? word with
        | some colour =>
          let style? ← read? rest
          pure (style?.map fun s => { s with colour := s.colour.or (some colour) })
        | none => pure none

def Style.words (s : Style) : List String :=
  (features.flatMap fun entry =>
    match s.set.lookup entry.1 with
    | some true => [entry.1]
    | some false => ["not " ++ entry.1]
    | none => [])
  ++ s.colour.toList
  ++ (s.background.toList.flatMap fun colour => ["on", colour])
  ++ (s.link.toList.flatMap fun link => ["link", link])

def usualName (name : List Char) : Except Fault String := do
  let words := (Text.words name).map String.ofList
  if words.isEmpty || Text.trim name = ['n', 'o', 'n', 'e'] then pure "none"
  else
    match ← Style.read? words with
    | some style => pure (if style.words.isEmpty then "none" else " ".intercalate style.words)
    | none => pure (String.ofList (Text.lower (Text.trim name)))

end TransferReport.Markup
