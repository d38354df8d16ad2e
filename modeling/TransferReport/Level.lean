import TransferReport.Fault
import TransferReport.Text.Case.Basic

/-!
# Levels of records

A record is of a named level or of a bare severity.  Names are exact where a record is made, and
may be in any case where a threshold is set.
-/

namespace TransferReport

inductive Level where
  | trace
  | debug
  | info
  | success
  | warning
  | error
  | critical
  | bare (severity : Nat)
  deriving DecidableEq, Inhabited

namespace Level

/-- The levels that have a name, by severity. -/
def named : List Level := [trace, debug, info, success, warning, error, critical]

def severity : Level → Nat
  | trace => 5
  | debug => 10
  | info => 20
  | success => 25
  | warning => 30
  | error => 40
  | critical => 50
  | bare severity => severity

def label : Level → String
  | trace => "TRACE"
  | debug => "DEBUG"
  | info => "INFO"
  | success => "SUCCESS"
  | warning => "WARNING"
  | error => "ERROR"
  | critical => "CRITICAL"
  | bare severity => "Level " ++ toString severity

/-- The level under which a record is shown: the bare severities of the first and of the success
level go by their names. -/
def shown : Level → Level
  | bare severity =>
    ([trace, success].find? fun level => level.severity = severity).getD (bare severity)
  | level => level

def ofName? (name : String) : Option Level :=
  named.find? fun level => level.label = name

/-- The level with this name in any case. -/
def ofAnyCase? (name : String) : Option Level :=
  ofName? (String.ofList (Text.upper name.toList))

end Level

structure Record where
  level : Level
  text : String
  deriving DecidableEq, Inhabited

end TransferReport
