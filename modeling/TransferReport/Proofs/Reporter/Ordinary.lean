import TransferReport.Proofs.Console.Plain
import TransferReport.Proofs.Reporter.Agreement

/-!
# Ordinary input

A call is ordinary when its event is plain and its two readings of the clock are no larger than
`2 ^ 53` and at least a millionth of a second apart unless no time has passed.  As long as all calls
are ordinary every message can be made and every task of the bar is plain, so no reporter meets a
fault, whatever the order of the calls.
-/

namespace TransferReport

open Reporter (Call)

/-- Nothing in the call is out of range. -/
structure Ordinary (call : Call) : Prop where
  event : call.event.Plain
  readings : ∃ now began, call.desk.clock.value? = some now ∧
    call.event.resource.start.value? = some began ∧ |now| ≤ 2 ^ 53 ∧ |began| ≤ 2 ^ 53 ∧
      (now - began ≤ 0 ∨ 1 / 10 ^ 6 ≤ now - began)

namespace Ordinary

variable {call : Call} {calls : List Call}

theorem elapsed (ordinary : Ordinary call) :
    Number.Elapsed call.desk.clock call.event.resource.start := by
  obtain ⟨now, began, hclock, hstart, hnow, hbegan, hduration⟩ := ordinary.readings
  exact Number.elapsed_of_value? hclock hstart hnow hbegan hduration

theorem exists_message (ordinary : Ordinary call) : ∃ text, Console.message call = .ok text :=
  Console.exists_message ordinary.event ordinary.elapsed

end Ordinary

end TransferReport
