import InteractiveFiction.Effect.Bundle
import InteractiveFiction.Effect.Outcome

/-!
The journal of a dispatcher: what became of the bundles that were submitted, in order.

* `Batch`: a bundle that was submitted, told from others by the number of its submission.
* `JournalEntry`: a bundle was submitted, a part of it was done, all of it was applied, or it failed.
-/

set_option autoImplicit false

namespace InteractiveFiction

structure Batch where
  serial : Nat
  effect : Effect
deriving DecidableEq

inductive JournalEntry where
  /-- Submitted while so many others waited, and while one was being applied or none was. -/
  | submitted (batch : Batch) (waiting : Nat) (applying : Bool)
  | performed (batch : Batch) (outcome : Outcome)
  /-- All parts were done; `queued` when the bundle had waited for another one. -/
  | applied (batch : Batch) (queued : Bool) (outcomes : List Outcome)
  /-- A part failed while so many others waited, and what followed it was not done. -/
  | failed (batch : Batch) (queued : Bool) (waiting : Nat)
deriving DecidableEq

def JournalEntry.submission? : JournalEntry → Option Batch
  | .submitted batch _ _ => some batch
  | _ => none

abbrev Journal := List JournalEntry

def Journal.submissions (journal : Journal) : List Batch :=
  journal.filterMap JournalEntry.submission?

end InteractiveFiction
