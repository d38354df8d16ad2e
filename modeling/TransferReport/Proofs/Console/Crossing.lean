import TransferReport.Proofs.Console.Plain

/-!
# Faults that cross between transfers

The bar is drawn as a whole, so the fault of one transfer may end a call about another.  That
happens in two places only: at the first event of a transfer, which adds its task to the bar and
draws it, and at the end of the last transfer under way, where the bar is stopped and what is left
in it is drawn.  A transfer whose events can all be shown meets no fault of its own.
-/

namespace TransferReport.Console

open Reporter (Call)

/-- The call is about a plain event, and both readings of the clock are whole. -/
structure Renderable (call : Call) : Prop where
  event : call.event.Plain
  clock : ∃ now, call.desk.clock = .int now
  start : ∃ began, call.event.resource.start = .int began

variable {c : Console} {bar : ProgressBar} {creations : List Creation} {call : Call}

theorem Renderable.exists_message (renderable : Renderable call) :
    ∃ text, message call = .ok text := by
  obtain ⟨now, hclock⟩ := renderable.clock
  obtain ⟨began, hstart⟩ := renderable.start
  apply Console.exists_message renderable.event
  rw [hclock, hstart]
  exact Number.elapsed_int now began

/-- A download of which a negative count has been reported: its task cannot be drawn any more. -/
def negativeCount : List Call :=
  [download .started "b" 5 0, download .progressed "b" 5 (-1)]

end TransferReport.Console
