import TransferReport.Text.CharRange

/-!
# Blank characters

The white space of Unicode, together with the four separators U+001C to U+001F.  `trim` removes
blanks from both ends of a text and nothing else; `words` are the longest runs without a blank.
-/

namespace TransferReport.Text

def blankRanges : List (Nat × Nat) :=
  [(0x09, 0x0D), (0x1C, 0x20), (0x85, 0x85), (0xA0, 0xA0), (0x1680, 0x1680), (0x2000, 0x200A),
   (0x2028, 0x2029), (0x202F, 0x202F), (0x205F, 0x205F), (0x3000, 0x3000)]

def isBlank (c : Char) : Bool :=
  inRanges blankRanges c

def trimEnd (s : List Char) : List Char :=
  (s.reverse.dropWhile isBlank).reverse

def trim (s : List Char) : List Char :=
  trimEnd (s.dropWhile isBlank)

/-- The longest runs of characters that are not blank, in order. -/
def words (s : List Char) : List (List Char) :=
  (s.splitBy fun a b => isBlank a == isBlank b).filter fun run => !run.all isBlank

theorem isBlank_space : isBlank ' ' = true := by decide

end TransferReport.Text
