/-!
# Runs of case pairs

Most letters lie in runs: every `stride`-th code point from `first` to `last` has its counterpart
at the same distance.
-/

namespace TransferReport.Text

/-- Every `stride`-th code point from `first` to `last` has its counterpart `offset` further on. -/
structure CaseRun where
  first : Nat
  last : Nat
  stride : Nat
  offset : Int

namespace CaseRun

def contains (run : CaseRun) (n : Nat) : Bool :=
  run.first ≤ n && n ≤ run.last && (n - run.first) % run.stride == 0

/-- The counterpart of a character in the first run that holds it. -/
def counterpart? (runs : List CaseRun) (c : Char) : Option Char :=
  (runs.find? fun run => run.contains c.toNat).map fun run =>
    Char.ofNat ((c.toNat : Int) + run.offset).toNat

end CaseRun

end TransferReport.Text
