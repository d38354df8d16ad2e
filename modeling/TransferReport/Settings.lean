import TransferReport.Reporter.Basic

/-!
# Settings of a report

The settings name a locale, a mode and whether to show a progress bar.  The mode is checked
before the locale.
-/

namespace TransferReport

inductive Mode where
  | console
  | log
  | quiet
  deriving DecidableEq, Inhabited

namespace Mode

def all : List Mode := [console, log, quiet]

def name : Mode → String
  | console => "console"
  | log => "log"
  | quiet => "quiet"

def ofName? (name : String) : Option Mode :=
  all.find? fun mode => mode.name = name

def ofValue? : Value → Option Mode
  | .text s => ofName? s
  | _ => none

end Mode

/-- The mode of checked settings may still be replaced by any value. -/
structure Settings where
  locale : Locale
  mode : Value
  showProgress : Value
  deriving Inhabited

namespace Settings

def check (locale mode showProgress : Value) : Except Fault Settings :=
  match Mode.ofValue? mode with
  | none => .error (Fault.invalidMode mode).raised
  | some _ => (Locale.ofValue locale).map fun locale => ⟨locale, mode, showProgress⟩

def text (s : Settings) : String :=
  "ReportConfig(locale=" ++ Text.quoted s.locale.tag ++ ", mode=" ++ s.mode.quoted
    ++ ", show_progress=" ++ s.showProgress.quoted ++ ")"

def format (s : Settings) : SizeFormat := ⟨s.locale⟩

/-- The reporter that the settings ask for. -/
def reporter (s : Settings) : Except Fault Reporter :=
  match Mode.ofValue? s.mode with
  | some .console => .ok (.console (.new s.showProgress.truthy))
  | some .log => .ok .log
  | some .quiet => .ok .quiet
  | none => .error (Fault.unsupportedMode s.mode).raised

end Settings

end TransferReport
