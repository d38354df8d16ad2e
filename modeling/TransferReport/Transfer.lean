import TransferReport.Number.Arithmetic

/-!
# Transfers

A transfer moves one resource of a repository in one direction.  It passes through stages, and at
every stage an event tells how many bytes have been moved and what went wrong, if anything did.
-/

namespace TransferReport

inductive Direction where
  | download
  | upload
  deriving DecidableEq, Inhabited

namespace Direction

/-- The name of the request that moves a resource in this direction. -/
def request : Direction → String
  | download => "GET"
  | upload => "PUT"

def ofRequest : Value → Except Fault Direction
  | .text "GET" => .ok download
  | .text "PUT" => .ok upload
  | value => .error (Fault.unknownRequest value).raised

end Direction

/-- A resource to be moved; a negative length is unknown. -/
structure Resource where
  repository : String
  base : String
  name : String
  length : Int
  start : Number
  deriving DecidableEq, Inhabited

/-- The place of the resource, which also identifies its transfer. -/
def Resource.url (r : Resource) : String := r.base ++ r.name

inductive ProblemKind where
  | general
  /-- A missing key, which is shown quoted. -/
  | missingKey
  /-- A failed system call: a number, a description and the files concerned. -/
  | systemCall
  deriving DecidableEq, Inhabited

/-- A problem that can be described: every integer among its arguments has a text. -/
structure Problem where
  kind : ProblemKind
  arguments : List Value
  writable : (Value.integersOfItems arguments).all Text.isWritable = true

instance : Inhabited Problem := ⟨⟨.general, [], rfl⟩⟩

namespace Problem

def tuple (items : List Value) : String :=
  "(" ++ ", ".intercalate (Value.quotedItems items) ++ ")"

def plainText : List Value → String
  | [] => ""
  | [value] => value.plain
  | values => tuple values

def systemText (number text : Value) : String :=
  "[Errno " ++ number.plain ++ "] " ++ text.plain

def waitingCalls : List Int := [11, 114, 115]

/-- The count that a call that would have had to wait gives in place of a file: a number, which must
be whole and at most 63 bits long. -/
def count? : List Value → Except Fault (Option Int)
  | .int call :: _ :: count :: rest =>
    if rest.length ≤ 2 && waitingCalls.contains call then
      match count with
      | .int n =>
        if -Int.pow 2 63 ≤ n && n < Int.pow 2 63 then .ok (some n) else .error .countOutOfRange
      | .bool b => .ok (some (if b then 1 else 0))
      | .real _ => .error .fractionalCount
      | _ => .ok none
    else .ok none
  | _ => .ok none

/-- The arguments that are kept of a problem.  A count is not a file, so no file is named with
it. -/
def keptArguments : ProblemKind → List Value → Except Fault (List Value)
  | .systemCall, arguments => do
    match ← count? arguments with
    | some _ => pure (arguments.take 2)
    | none => pure arguments
  | _, arguments => .ok arguments

/-- A problem whose arguments fit its kind. -/
def ofArguments (kind : ProblemKind) (arguments : List Value) : Except Fault Problem := do
  let kept ← keptArguments kind arguments
  if writable : (Value.integersOfItems kept).all Text.isWritable then pure ⟨kind, kept, writable⟩
  else .error .unwritableInteger

/-- What a failed system call was about: the files that are named after its description. -/
def systemCallText : List Value → String
  | [number, text] => systemText number text
  | [number, text, .null] | [number, text, .null, _] | [number, text, .null, _, _] =>
    systemText number text
  | [number, text, file] | [number, text, file, _] | [number, text, file, _, .null] =>
    systemText number text ++ ": " ++ file.quoted
  | [number, text, file, _, target] =>
    systemText number text ++ ": " ++ file.quoted ++ " -> " ++ target.quoted
  | values => plainText values

def text (p : Problem) : String :=
  match p.kind, p.arguments with
  | .missingKey, [key] => key.quoted
  | .systemCall, values => systemCallText values
  | _, values => plainText values

end Problem

structure Event where
  direction : Direction
  resource : Resource
  transferred : Int
  problem : Option Problem
  deriving Inhabited

/-- The place of the resource that the event is about. -/
def Event.url (e : Event) : String := e.resource.url

/-- The stages of a transfer; the last three end it. -/
inductive Stage where
  | initiated
  | started
  | progressed
  | corrupted
  | succeeded
  | failed
  deriving DecidableEq, Inhabited

end TransferReport
