import InteractiveFiction.Identity
import InteractiveFiction.Save.Folder
import InteractiveFiction.Save.Memory

/-!
Stores of saved games, in memory or in a folder, that may fail to save or to list.
-/

set_option autoImplicit false

namespace InteractiveFiction

inductive SaveMedium where
  | memory (store : MemoryStore)
  | folder (store : FolderStore)
deriving DecidableEq

structure SaveStore where
  medium : SaveMedium := .memory {}
  savingFault : Option Fault := none
  listingFault : Option Fault := none
deriving DecidableEq

namespace SaveStore

def withMedium (store : SaveStore) (medium : SaveMedium) : SaveStore :=
  { store with medium }

def saveAs (store : SaveStore) (slot : SaveSlot) (state : GameState) :
    Result SaveSlot × SaveStore :=
  match store.medium with
  | .memory m =>
    let (result, m) := m.save slot state
    (result, store.withMedium (.memory m))
  | .folder f =>
    let (result, f) := f.save slot state
    (result, store.withMedium (.folder f))

/-- Saves a game.  A player's slot gets an identity of its own, the number of the last identity
being `issued`. -/
def save (store : SaveStore) (now : Instant) (issued : Nat) (state : GameState) (name : Document)
    (autosave : Bool) : Result SaveSlot × Nat × SaveStore :=
  match store.savingFault with
  | some fault => (throw fault, issued, store)
  | none =>
    let (id, issued) :=
      if autosave then (SaveSlot.autosaveId state, issued)
      else (Identity.saveSlot (issued + 1), issued + 1)
    let (result, store) := store.saveAs (.ofState now id state name autosave) state
    (result, issued, store)

def load (store : SaveStore) (now : Instant) (id : String) : Result GameState :=
  match store.medium with
  | .memory m => m.load now id
  | .folder f => f.load now id

def list (store : SaveStore) : Result (List SaveSlot) :=
  match store.listingFault, store.medium with
  | some fault, _ => throw fault
  | none, .memory m => m.list
  | none, .folder f => f.list

def delete (store : SaveStore) (id : String) : Result Bool × SaveStore :=
  match store.medium with
  | .memory m =>
    let (deleted, m) := m.delete id
    (pure deleted, store.withMedium (.memory m))
  | .folder f =>
    let (result, f) := f.delete id
    (result, store.withMedium (.folder f))

/-- Puts a document in the place of a saved game. -/
def place (store : SaveStore) (id : String) (archive : Document) : SaveStore :=
  match store.medium with
  | .memory m => store.withMedium (.memory ⟨m.archives.insert id archive⟩)
  | .folder f =>
    let entry :=
      match archive with
      | .text s => FolderEntry.text s
      | d => .document d
    store.withMedium (.folder ⟨f.entries.insert (id ++ ".json") entry⟩)

end SaveStore

end InteractiveFiction
