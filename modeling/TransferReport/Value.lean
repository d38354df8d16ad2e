import TransferReport.Number.Shortest
import TransferReport.Text.Quoted

/-!
# Values of settings

A setting, or an argument of a problem, may hold a value of any kind; most kinds are refused with
a message that quotes the value.  `quoted` is the form in a message and `plain` the form of a
value that stands for a message itself.
-/

namespace TransferReport

inductive Value where
  | null
  | bool (b : Bool)
  | int (n : Int)
  | real (x : Number.Binary64)
  | text (s : String)
  | list (items : List Value)
  | record (fields : List (String × Value))
  deriving Inhabited

namespace Value

/-- Whether the value counts as true: it is neither absent, false, zero nor empty. -/
def truthy : Value → Bool
  | null => false
  | bool b => b
  | int n => n != 0
  | real (.finite _ units) => units != 0
  | real _ => true
  | text s => s != ""
  | list items => !items.isEmpty
  | record fields => !fields.isEmpty

def kind : Value → String
  | null => "NoneType"
  | bool _ => "bool"
  | int _ => "int"
  | real _ => "float"
  | text _ => "str"
  | list _ => "list"
  | record _ => "dict"

mutual

def quoted : Value → String
  | null => "None"
  | bool b => if b then "True" else "False"
  | int n => toString n
  | real x => x.text
  | text s => Text.quoted s
  | list items => "[" ++ ", ".intercalate (quotedItems items) ++ "]"
  | record fields => "\x7b" ++ ", ".intercalate (quotedFields fields) ++ "\x7d"

def quotedItems : List Value → List String
  | [] => []
  | item :: items => item.quoted :: quotedItems items

def quotedFields : List (String × Value) → List String
  | [] => []
  | (name, value) :: fields => (Text.quoted name ++ ": " ++ value.quoted) :: quotedFields fields

end

mutual

/-- The integers in a value, which its quoted form writes out. -/
def integers : Value → List Int
  | int n => [n]
  | list items => integersOfItems items
  | record fields => integersOfFields fields
  | _ => []

def integersOfItems : List Value → List Int
  | [] => []
  | item :: items => item.integers ++ integersOfItems items

def integersOfFields : List (String × Value) → List Int
  | [] => []
  | (_, value) :: fields => value.integers ++ integersOfFields fields

end

/-- The form of a value that is shown as it is: a text without quotes. -/
def plain : Value → String
  | text s => s
  | value => value.quoted

end Value

end TransferReport
