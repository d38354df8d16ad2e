import TransferReport.Terminal.Emoji
import TransferReport.Text.Width

/-!
# Printed lines

A message is printed as it is, but for three things: emoji codes are replaced, control characters
that would move the cursor are dropped, and tabs become spaces up to the next multiple of eight
cells.  The line is neither wrapped nor trimmed.
-/

namespace TransferReport.Terminal

/-- Bell, backspace, vertical tab, form feed and carriage return. -/
def isCursorControl (c : Char) : Bool :=
  c.toNat = 0x07 || c.toNat = 0x08 || c.toNat = 0x0B || c.toNat = 0x0C || c.toNat = 0x0D

def tabStop : Nat := 8

def withoutControls (s : List Char) : List Char :=
  s.filter fun c => !isCursorControl c

/-- The count of spaces for a tab.  The first of them is measured as part of the text before it,
where a joiner may hide it; the others lead to the next tab stop. -/
def tabSpaces (m : Text.Measure) : Nat :=
  let used := (m.step ' ').width % tabStop
  if used = 0 then 1 else 1 + (tabStop - used)

/-- Replaces every tab by spaces; `m` measures the text since the last tab stop or line start. -/
def expandTabs (m : Text.Measure) : List Char → List Char
  | [] => []
  | c :: cs =>
    if c = '\t' then List.replicate (tabSpaces m) ' ' ++ expandTabs {} cs
    else if c = '\n' then c :: expandTabs {} cs
    else c :: expandTabs (m.step c) cs

/-- What is written for a message, without the end of the line. -/
def shown (names : EmojiNames) (s : List Char) : List Char :=
  expandTabs {} (withoutControls (replaceEmojis names s))

def println (names : EmojiNames) (message : String) : String :=
  String.ofList (shown names message.toList) ++ "\n"

end TransferReport.Terminal
