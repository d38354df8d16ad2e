import TransferReport.Fault
import TransferReport.Text.Case.Basic
import TransferReport.Text.Digit

/-!
# Colours

A colour is named by a word in any case, by its number among 256 colours, or by its red, green and
blue part: six hexadecimal digits after a number sign, or three numbers up to 255 in parentheses.
It is called by the word in lower case.  A part that is left out between two commas is a fault.
-/

namespace TransferReport.Markup

/-- The families of colours, each with the numbers of its shades; one without a number is the colour
of that name. -/
def colourFamilies : List (String × List String) :=
  [("aquamarine", ["1", "3"]), ("black", [""]), ("blue", ["", "1", "3"]), ("blue_violet", [""]),
   ("bright_black", [""]), ("bright_blue", [""]), ("bright_cyan", [""]), ("bright_green", [""]),
   ("bright_magenta", [""]), ("bright_red", [""]), ("bright_white", [""]),
   ("bright_yellow", [""]), ("cadet_blue", [""]), ("chartreuse", ["1", "2", "3", "4"]),
   ("cornflower_blue", [""]), ("cornsilk", ["1"]), ("cyan", ["", "1", "2", "3"]),
   ("dark_blue", [""]), ("dark_cyan", [""]), ("dark_goldenrod", [""]), ("dark_green", [""]),
   ("dark_khaki", [""]), ("dark_magenta", [""]), ("dark_olive_green", ["1", "2", "3"]),
   ("dark_orange", ["", "3"]), ("dark_red", [""]), ("dark_sea_green", ["", "1", "2", "3", "4"]),
   ("dark_slate_gray", ["1", "2", "3"]), ("dark_turquoise", [""]), ("dark_violet", [""]),
   ("deep_pink", ["1", "2", "3", "4"]), ("deep_sky_blue", ["1", "2", "3", "4"]),
   ("dodger_blue", ["1", "2", "3"]), ("gold", ["1", "3"]), ("green", ["", "1", "3", "4"]),
   ("green_yellow", [""]), ("honeydew", ["2"]), ("hot_pink", ["", "2", "3"]),
   ("indian_red", ["", "1"]), ("khaki", ["1", "3"]), ("light_coral", [""]),
   ("light_cyan", ["1", "3"]), ("light_goldenrod", ["1", "2", "3"]), ("light_green", [""]),
   ("light_pink", ["1", "3", "4"]), ("light_salmon", ["1", "3"]), ("light_sea_green", [""]),
   ("light_sky_blue", ["1", "3"]), ("light_slate_blue", [""]), ("light_slate_gray", [""]),
   ("light_slate_grey", [""]), ("light_steel_blue", ["", "1", "3"]), ("light_yellow", ["3"]),
   ("magenta", ["", "1", "2", "3"]), ("medium_orchid", ["", "1", "3"]),
   ("medium_purple", ["", "1", "2", "3", "4"]), ("medium_spring_green", [""]),
   ("medium_turquoise", [""]), ("medium_violet_red", [""]), ("misty_rose", ["1", "3"]),
   ("navajo_white", ["1", "3"]), ("navy_blue", [""]), ("orange", ["1", "3", "4"]),
   ("orange_red", ["1"]), ("orchid", ["", "1", "2"]), ("pale_green", ["1", "3"]),
   ("pale_turquoise", ["1", "4"]), ("pale_violet_red", ["1"]), ("pink", ["1", "3"]),
   ("plum", ["1", "2", "3", "4"]), ("purple", ["", "3", "4"]), ("red", ["", "1", "3"]),
   ("rosy_brown", [""]), ("royal_blue", ["1"]), ("salmon", ["1"]), ("sandy_brown", [""]),
   ("sea_green", ["1", "2", "3"]), ("sky_blue", ["1", "2", "3"]), ("slate_blue", ["1", "3"]),
   ("spring_green", ["1", "2", "3", "4"]), ("steel_blue", ["", "1", "3"]), ("tan", [""]),
   ("thistle", ["1", "3"]), ("turquoise", ["2", "4"]), ("violet", [""]), ("wheat", ["1", "4"]),
   ("white", [""]), ("yellow", ["", "1", "2", "3", "4"])]

def greyShades : List String :=
  ["0", "3", "7", "11", "15", "19", "23", "27", "30", "35", "37", "39", "42", "46", "50", "53",
   "54", "58", "62", "63", "66", "69", "70", "74", "78", "82", "84", "85", "89", "93", "100"]

def isColourName (word : String) : Bool :=
  word = "default"
    || colourFamilies.any (fun family => family.2.any fun shade => family.1 ++ shade = word)
    || greyShades.any fun shade => "grey" ++ shade = word || "gray" ++ shade = word

def isHex (c : Char) : Bool :=
  c.isDigit || ('a' ≤ c && c ≤ 'f')

def inParentheses? (word : String) (s : List Char) : Option (List Char) :=
  let start := word.toList ++ ['(']
  if start.isPrefixOf s && s.getLast? = some ')' then some ((s.drop start.length).dropLast)
  else none

def decimalNumber? (s : List Char) : Option Nat :=
  s.foldlM (fun n c => (Text.decimalValue? c).map fun digit => 10 * n + digit) 0

/-- A part of a colour, of which at least one digit must be given. -/
def colourPart (s : List Char) : Except Fault (Option Nat) :=
  if s.isEmpty then .error .missingColourPart else .ok (decimalNumber? s)

/-- Whether the parts between commas are the three parts of a colour. -/
def areColourParts (s : List Char) : Except Fault Bool :=
  if s.isEmpty || !s.all (fun c => c = ',' || (Text.decimalValue? c).isSome) then .ok false
  else
    match s.splitOnP (· = ',') with
    | [red, green, blue] => do
      let parts ← [red, green, blue].mapM colourPart
      pure (parts.all fun part => part.any fun n => n ≤ 255)
    | _ => .ok false

def isColourNumber (s : List Char) : Bool :=
  !s.isEmpty && s.length ≤ 3 && s.all Char.isDigit && (decimalNumber? s).any fun n => n ≤ 255

def isColour (word : String) : Except Fault Bool :=
  match word.toList with
  | '#' :: digits => .ok (digits.length = 6 && digits.all isHex)
  | s =>
    if isColourName word then .ok true
    else
      match inParentheses? "color" s, inParentheses? "rgb" s with
      | some number, _ => .ok (isColourNumber number)
      | none, some parts => areColourParts parts
      | none, none => .ok false

/-- The name of the colour that a word in any case stands for. -/
def colour? (word : String) : Except Fault (Option String) := do
  let name := String.ofList (Text.lower word.toList)
  let isColour ← isColour name
  pure (if isColour then some name else none)

end TransferReport.Markup
