import InteractiveFiction.Engine.Basic

/-!
Saving a game: by itself, on the player's wish, and at the end.

A save that fails leaves no mark of a save in the state, and is always a fault of saving.
-/

set_option autoImplicit false

namespace InteractiveFiction

namespace Turn

/-- The fault of a save, whatever the store failed with. -/
def savingFault (fault : Fault) : Fault :=
  if fault.isOfSaving then fault else .saving (.saveFailed fault.message)

def setLastSaved (lastSaved : Document) : Turn Unit :=
  modifyState fun state => { state with progress := { state.progress with lastSaved } }

def save (name : Document) (autosave : Bool) : Turn SaveSlot := do
  let previous := (← state).progress.lastSaved
  let now ← now
  setLastSaved (Timestamp.text now)
  modifyState fun state => state.touch now
  let { issued, store, .. } ← world
  let (result, issued, store) := store.save now issued (← state) name autosave
  modifyWorld fun world => { world with issued, store }
  match result with
  | .ok slot =>
    publish (.gameSaved slot.toDocument autosave)
    pure slot
  | .error fault =>
    setLastSaved previous
    throw (savingFault fault)

/-- Saves to the slot of the play-through, if the game is to be saved by itself; tells whether it
was saved. -/
def autosave : Turn Bool := do
  if (← engine).state.any fun state => state.settings.autosave.isTruthy then
    tryCatch
      (do
        let _ ← save "Autosave" true
        pure true)
      fun fault => do
        report "autosave" fault
        pure false
  else pure false

def manualSave (name : Document) : Turn SaveSlot := do
  requireGame "manual_save"
  tryCatch (save name false) (reject "manual_save")

def listSlots : Turn (List SaveSlot) := do
  match (← world).store.list with
  | .ok slots => pure slots
  | .error fault =>
    if fault.isOfSaving then report "list_save_slots" fault
    throw fault

end Turn

end InteractiveFiction
