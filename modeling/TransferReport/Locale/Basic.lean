import TransferReport.Locale.Catalogue
import TransferReport.Locale.Identifier

/-!
# Locales

A locale is a known identifier together with its decimal mark.  The modifier of a known identifier
is kept; an identifier that only stands for a known locale loses it.
-/

namespace TransferReport

structure Locale where
  tag : String
  mark : Char
  deriving DecidableEq, Inhabited

namespace Locale

/-- The locale of an identifier in its usual form. -/
def resolve (id : Identifier) : Except Fault Locale :=
  match mark? id.base with
  | some mark => .ok ⟨id.tag, mark⟩
  | none =>
    match likelyLocales.lookup id.base with
    | some base =>
      match mark? base with
      | some mark => .ok ⟨base, mark⟩
      | none => .error (.unknownLocale id.tag)
    | none => .error (.unknownLocale id.tag)

def parse (s : String) : Except Fault Locale :=
  (Identifier.parse s).bind resolve

def ofValue (value : Value) : Except Fault Locale :=
  if !value.truthy then .error (Fault.emptyLocale value).raised
  else match value with
    | .text s => parse s
    | _ => .error (Fault.localeNotText value).raised

/-- English, the locale where none is named. -/
def english : Locale := ⟨"en", '.'⟩

end Locale

end TransferReport
