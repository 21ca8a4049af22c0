import InteractiveFiction.Save.Slot

/-!
Saved games in memory: documents under their slot ids, in the order in which they were written.
-/

set_option autoImplicit false

namespace InteractiveFiction

structure MemoryStore where
  archives : OrderedMap Document := .empty
deriving DecidableEq

namespace MemoryStore

/-- Writes a game to a slot, after every other one. -/
def write (store : MemoryStore) (id : String) (archive : Document) : MemoryStore :=
  ⟨(store.archives.erase id).insert id archive⟩

def slots (store : MemoryStore) : Result (List SaveSlot) :=
  store.archives.values.mapM SaveSlot.ofArchive

def list (store : MemoryStore) : Result (List SaveSlot) := do
  SaveSlot.newestFirst (← store.slots)

/-- Drops slots; each must be stored under its own id. -/
def drop (store : MemoryStore) : List SaveSlot → Result Unit × MemoryStore
  | [] => (pure (), store)
  | slot :: slots =>
    let id := slot.id.toKey
    if store.archives.contains id then drop ⟨store.archives.erase id⟩ slots
    else (throw (.missingKey id), store)

def prune (store : MemoryStore) : Result Unit × MemoryStore :=
  match store.slots >>= SaveSlot.overLimit with
  | .ok slots => store.drop slots
  | .error fault => (throw fault, store)

/-- Saves a game; a game that a player saved may push others out. -/
def save (store : MemoryStore) (slot : SaveSlot) (state : GameState) :
    Result SaveSlot × MemoryStore :=
  let written := store.write slot.id.toKey (slot.archive state)
  if slot.isAutosave then (pure slot, written)
  else
    let (result, store) := written.prune
    (result.map fun _ => slot, store)

/-- Loads a copy of a game. -/
def load (store : MemoryStore) (now : Instant) (id : String) : Result GameState :=
  match Document.ofOption (store.archives.get? id) with
  | .null => throw (.saving (.slotNotFound id))
  | archive => GameState.ofCopy now id archive

/-- Deletes a slot, and tells whether there was one. -/
def delete (store : MemoryStore) (id : String) : Bool × MemoryStore :=
  (Document.ofOption (store.archives.get? id) != .null, ⟨store.archives.erase id⟩)

end MemoryStore

end InteractiveFiction
