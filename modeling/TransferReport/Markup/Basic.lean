import TransferReport.Markup.Handler
import TransferReport.Markup.Style

/-!
# Markup

Text may hold tags in square brackets.  A tag begins with a small letter or one of `#`, `/` and
`@`, and ends at the next closing bracket, with no opening bracket between; a backslash before it
makes it plain text, and two backslashes stand for one.  A tag that begins with a slash closes the
last open tag of its name, or the last open tag of all when it names none.  A tag whose name begins
with `@` names a handler, whose parameters are read when it is closed.  Whatever is left open at the
end is closed there; a closing tag without an opening one is a fault.
-/

namespace TransferReport.Markup

/-- A tag: the position of its bracket, its name, and its parameter after an equals sign. -/
structure Tag where
  position : Nat
  name : List Char
  parameter : Option (List Char)

def Tag.text (t : Tag) : String :=
  match t.parameter with
  | some parameter => String.ofList ('[' :: t.name ++ '=' :: parameter ++ [']'])
  | none => String.ofList ('[' :: t.name ++ [']'])

def Tag.ofInner (position : Nat) (inner : List Char) : Tag :=
  { position
    name := inner.takeWhile (· != '=')
    parameter := if inner.contains '=' then some ((inner.dropWhile (· != '=')).drop 1) else none }

def startsTag (c : Char) : Bool :=
  ('a' ≤ c && c ≤ 'z') || c = '#' || c = '/' || c = '@'

/-- The inner text of a tag and the text after it, where the text before has just ended with an
opening bracket. -/
def closeTag (s : List Char) : Option (List Char × List Char) :=
  let inner := s.takeWhile fun c => c != ']' && c != '['
  match s.drop inner.length, inner with
  | ']' :: rest, c :: _ => if startsTag c then some (inner, rest) else none
  | _, _ => none

theorem length_le_of_closeTag {s inner rest : List Char} (h : closeTag s = some (inner, rest)) :
    rest.length ≤ s.length := by
  unfold closeTag at h
  dsimp only at h
  split at h
  · rename_i tail c cs hdrop _
    split at h
    · obtain ⟨-, rfl⟩ := Prod.mk.inj (Option.some.inj h)
      have hlen := congrArg List.length hdrop
      simp only [List.length_drop, List.length_cons] at hlen
      omega
    · simp at h
  · simp at h

/-- The tags of a text in order; `position` counts the characters before it and `escaped` tells
whether an odd number of backslashes has just gone by. -/
def tags (position : Nat) (escaped : Bool) : List Char → List Tag
  | [] => []
  | c :: cs =>
    if c = '\\' then tags (position + 1) (!escaped) cs
    else if c = '[' then
      match h : closeTag cs with
      | some (inner, rest) =>
        have : rest.length < cs.length + 1 := Nat.lt_succ_of_le (length_le_of_closeTag h)
        let after := tags (position + inner.length + 2) false rest
        if escaped then after else Tag.ofInner position inner :: after
      | none => tags (position + 1) false cs
    else tags (position + 1) false cs
termination_by s => s.length

/-- An open tag: the usual form of its name, and its parameter. -/
structure OpenTag where
  name : String
  parameter : Option (List Char)
  deriving DecidableEq, Inhabited

/-- Closes a tag; the parameters of a handler must be readable. -/
def OpenTag.close (t : OpenTag) : Except Fault Unit :=
  match t.name.toList.head?, t.parameter with
  | some '@', some parameter => if parameter.isEmpty then .ok () else checkParameters parameter
  | _, _ => .ok ()

/-- The tags that stay open after a tag, the last one first. -/
def step (opened : List OpenTag) (t : Tag) : Except Fault (List OpenTag) :=
  match t.name with
  | '/' :: closing =>
    if (Text.trim closing).isEmpty then
      match opened with
      | last :: rest => do
        last.close
        pure rest
      | [] => .error (.nothingToClose t.position)
    else do
      let name ← usualName (Text.trim closing)
      match opened.find? fun tag => tag.name = name with
      | some tag => do
        tag.close
        pure (opened.eraseP fun tag => tag.name = name)
      | none => .error (.unmatchedTag t.text t.position)
  | name => do
    let name ← usualName name
    pure (⟨name, t.parameter⟩ :: opened)

def openAtEnd (s : List Char) : Except Fault (List OpenTag) :=
  (tags 0 false s).foldlM step []

end TransferReport.Markup
