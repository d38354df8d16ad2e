import Mathlib.Data.Nat.Notation
import TransferReport.ProgressBar

/-!
# Markup of plain names

A tag reaches from an opening bracket to a closing one, so a text without an opening bracket has no
tags.  A task with such a name is drawn with the tag of its style alone, which stays open.
-/

namespace TransferReport.Markup

variable {inner rest s : List Char}

end TransferReport.Markup
