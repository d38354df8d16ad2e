import TransferReport.Fault
import TransferReport.Text.Case.Basic
import TransferReport.Text.Letter

/-!
# Locale identifiers

An identifier is `language[_Script][_TERRITORY][_VARIANT][.charset][@modifier]` in any case.
Reading it drops the character set and brings every part into its usual case; `tag` writes it
back in that form.
-/

namespace TransferReport.Locale

structure Identifier where
  language : String
  script : Option String
  territory : Option String
  variant : Option String
  modifier : Option String
  deriving DecidableEq

namespace Identifier

def base (id : Identifier) : String :=
  "_".intercalate (id.language :: [id.script, id.territory, id.variant].filterMap fun part => part)

def tag (id : Identifier) : String :=
  match id.modifier with
  | some modifier => id.base ++ "@" ++ modifier
  | none => id.base

/-- The text before the first `mark`, and the text after it if there is one. -/
def cut (mark : Char) (s : List Char) : List Char × List Char :=
  (s.takeWhile (· != mark), (s.dropWhile (· != mark)).drop 1)

/-- The parts of a text between underscores; there is at least one. -/
def parts : List Char → List (List Char)
  | [] => [[]]
  | c :: cs =>
    if c = '_' then [] :: parts cs
    else match parts cs with
      | [] => [[c]]
      | part :: rest => (c :: part) :: rest

def isAlphabetic (s : List Char) : Bool :=
  !s.isEmpty && s.all Text.isLetter

def takeScript : List (List Char) → Option String × List (List Char)
  | part :: rest =>
    if part.length = 4 && isAlphabetic part then (some (String.ofList (Text.title part)), rest)
    else (none, part :: rest)
  | [] => (none, [])

def takeTerritory : List (List Char) → Option String × List (List Char)
  | part :: rest =>
    if part.length = 2 && isAlphabetic part then (some (String.ofList (Text.upper part)), rest)
    else if part.length = 3 && part.all Text.isDigit then (some (String.ofList part), rest)
    else (none, part :: rest)
  | [] => (none, [])

/-- A part of four characters from a digit on, or of more from a letter on. -/
def looksLikeVariant : List Char → Bool
  | [] => false
  | c :: cs => (cs.length = 3 && Text.isDigit c) || (4 ≤ cs.length && Text.isLetter c)

/-- When the next part looks like a variant, the last one is the variant. -/
def takeVariant (rest : List (List Char)) : Option String × List (List Char) :=
  match rest.head?, rest.getLast? with
  | some next, some last =>
    if looksLikeVariant next then (some (String.ofList (Text.upper last)), rest.dropLast)
    else (none, rest)
  | _, _ => (none, rest)

/-- Reads an identifier: the language first, then each part that is there, in order. -/
def parse (s : String) : Except Fault Identifier :=
  let (beforeModifier, modifier) := cut '@' s.toList
  let core := (cut '.' beforeModifier).1
  let all := parts core
  let language := Text.lower (all.headD [])
  if !isAlphabetic language then .error (.languageNotLetters (String.ofList language))
  else
    let (script, rest) := takeScript all.tail
    let (territory, rest) := takeTerritory rest
    let (variant, rest) := takeVariant rest
    if rest.isEmpty then
      .ok {
        language := String.ofList language
        script
        territory
        variant
        modifier := if modifier.isEmpty then none else some (String.ofList modifier) }
    else .error (.malformedLocale (String.ofList core))

end Identifier

end TransferReport.Locale
