import TransferReport.Level
import TransferReport.Text.Blank
import TransferReport.Text.Digit

/-!
# Log files

A record stands in a file on a line of its own after a head, which names the moment, the level and
the place where it was made; the further lines of its text follow without a head.  Whoever reads
the file skips empty lines and takes every line with a head for a record, even one that comes from
the inside of a text.
-/

namespace TransferReport.LogFile

/-- The form of the moment in a head; a zero stands for any digit. -/
def momentForm : List Char := "0000-00-00 00:00:00.000 | ".toList

def afterForm? : List Char → List Char → Option (List Char)
  | [], line => some line
  | _ :: _, [] => none
  | f :: form, c :: line =>
    if (if f = '0' then (Text.decimalValue? c).isSome else c = f) then afterForm? form line
    else none

def isPlace (s : List Char) : Bool :=
  2 ≤ s.count ':'

/-- The level and the text of a line with a head. -/
def readHead? (line : List Char) : Option (List Char × List Char) := do
  let rest ← afterForm? momentForm line
  let level := rest.takeWhile (· != '|')
  match rest.drop level.length with
  | '|' :: ' ' :: rest =>
    let place := rest.takeWhile fun c => !Text.isBlank c
    match rest.drop place.length with
    | ' ' :: '-' :: ' ' :: text =>
      if isPlace place && !(Text.trimEnd level).isEmpty then some (Text.trimEnd level, text)
      else none
    | _ => none
  | _ => none

/-- A line as it is read: the level in its head, or nothing, and its text. -/
def readLine (line : String) : String × String :=
  match readHead? line.toList with
  | some (level, text) => (String.ofList level, String.ofList text)
  | none => ("", line)

def readRecord (r : Record) : List (String × String) :=
  match r.text.splitOn "\n" with
  | [] => [(r.level.label, "")]
  | first :: rest => (r.level.label, first) :: (rest.filter fun line => line != "").map readLine

/-- What is read of a file that holds these records. -/
def read (records : List Record) : List (String × String) :=
  records.flatMap readRecord

end TransferReport.LogFile
