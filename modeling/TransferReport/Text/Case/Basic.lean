import TransferReport.Text.Case.Context
import TransferReport.Text.Case.Lower
import TransferReport.Text.Case.Upper

/-!
# Case of texts

Upper case is taken character by character.  Lower case has one rule about surroundings: a capital
sigma after a letter and before none is the final sigma.  The title case of a text begins every
word with the title form of its first letter and goes on in lower case; any character that is not
cased separates words.
-/

namespace TransferReport.Text

def upper (s : List Char) : List Char :=
  s.flatMap upperChar

/-- Whether the next character that is not ignorable is cased. -/
def nextIsCased : List Char → Bool
  | [] => false
  | c :: cs => if isIgnorable c then nextIsCased cs else isCased c

/-- Whether the last character that is not ignorable is cased, after one more character. -/
def afterCased (before : Bool) (c : Char) : Bool :=
  if isIgnorable c then before else isCased c

/-- The lower case of `c` before `rest`; `before` tells whether a letter goes before it. -/
def lowerWithin (before : Bool) (c : Char) (rest : List Char) : List Char :=
  if c.toNat = 0x3A3 then [Char.ofNat (if before && !nextIsCased rest then 0x3C2 else 0x3C3)]
  else lowerChar c

def lowerFrom (before : Bool) : List Char → List Char
  | [] => []
  | c :: cs => lowerWithin before c cs ++ lowerFrom (afterCased before c) cs

def lower (s : List Char) : List Char :=
  lowerFrom false s

/-- The title case of a text; `inWord` tells whether the character before it is cased. -/
def titleFrom (inWord before : Bool) : List Char → List Char
  | [] => []
  | c :: cs =>
    (if inWord then lowerWithin before c cs else titleChar c)
      ++ titleFrom (isCased c) (afterCased before c) cs

def title (s : List Char) : List Char :=
  titleFrom false false s

end TransferReport.Text
