import InteractiveFiction.Fault

/-!
Identities issued one after another.

* `Issue`: a computation that may issue identities and may fail; what was issued stays issued.
* `Identity.uuid`, `Identity.saveSlot`, `Identity.item`: the texts of the n-th identity.
-/

set_option autoImplicit false

namespace InteractiveFiction

/-- Carries the number of identities issued so far. -/
abbrev Issue := ExceptT Fault (StateM Nat)

namespace Identity

def next : StateM Nat Nat := do
  modify (· + 1)
  get

def uuid (n : Nat) : String :=
  hexText 8 n ++ "-0000-0000-0000-000000000000"

def saveSlot (n : Nat) : String :=
  "save_" ++ hexText 8 n ++ "0000"

def item (n : Nat) : String :=
  "item_" ++ hexText 8 n

end Identity

def Issue.ofResult {α : Type} (result : Result α) : Issue α :=
  match result with
  | .ok value => pure value
  | .error fault => throw fault

instance : MonadLift Result Issue := ⟨Issue.ofResult⟩

end InteractiveFiction
