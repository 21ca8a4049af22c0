import InteractiveFiction.Document.Reader
import InteractiveFiction.Save.Slot

/-!
Saved games in a folder: one file for each slot, named for its id.

Other things may lie in the folder.  Files that cannot be read are passed over in listings; a
folder in the place of a file can be neither read nor written nor deleted.  A name that is too long,
or that holds a null byte, is no file's; other than that the device never fails, and what is read is
nested no deeper than can be read.
-/

set_option autoImplicit false

namespace InteractiveFiction

inductive FolderEntry where
  | text (text : String)
  | document (document : Document)
  | folder
deriving DecidableEq

structure FolderStore where
  entries : OrderedMap FolderEntry := .empty
deriving DecidableEq

namespace FolderStore

/-- The name of the file of a slot.  An id must not lead out of the folder or hide the file. -/
def fileName (id : String) : Result String :=
  if id.isEmpty || id.contains '/' || id.contains '\\' || id.startsWith "." then
    throw (.saving (.slotId id))
  else pure (id ++ ".json")

/-- The name of the file of a slot whose id was read from an archive and may be any document. -/
def fileNameOf (id : Document) : Result String :=
  match id with
  | .text id => fileName id
  | .list items => named items
  | .object fields => named (fields.map fun (key, _) => .text key)
  | id => if id.isTruthy then throw (.mistyped (.notContainer id.kind)) else refused
where
  refused := throw (.saving (.slotId id))
  named (members : List Document) :=
    if members.isEmpty || members.contains (.text "/") || members.contains (.text "\\") then refused
    else throw (.noField id.kind "startswith")

/-- The most bytes that the name of a file may have. -/
def nameLimit : Nat := 255

/-- Whether a text is taken for a name, with so many bytes at most. -/
def checkName (limit : Nat) (name : String) : Result Unit :=
  if name.contains '\x00' then throw (.value .nullByte)
  else if limit < name.utf8ByteSize then throw (.device "File name too long")
  else pure ()

def hasFile (store : FolderStore) (name : String) : Result Bool :=
  if name.contains '\x00' then pure false
  else do
    checkName nameLimit name
    pure (store.entries.contains name)

def read (store : FolderStore) (name : String) : Result Document :=
  match store.entries.get? name with
  | some (.document d) => pure d
  | some (.text s) =>
    match Document.read s with
    | .ok d => pure d
    | .error .malformed => throw (.saving (.unreadable name))
    | .error (.tooLong digits) => throw (.value (.intTooLong digits))
  | some .folder | none => throw (.saving (.unreadable name))

def slotsOf (store : FolderStore) : List String → Result (List SaveSlot)
  | [] => pure []
  | name :: names =>
    match store.read name >>= SaveSlot.ofArchive with
    | .ok slot => do pure (slot :: (← slotsOf store names))
    | .error (.saving _) | .error (.missingKey _) => slotsOf store names
    | .error fault => throw fault

def slots (store : FolderStore) : Result (List SaveSlot) :=
  store.slotsOf (store.entries.keys.filter fun name => name.endsWith ".json")

def list (store : FolderStore) : Result (List SaveSlot) := do
  SaveSlot.newestFirst (← store.slots)

/-- Deletes a file, and tells whether there was one. -/
def unlink (store : FolderStore) (name : String) : Result Bool × FolderStore :=
  match checkName nameLimit name with
  | .error (.device _) => (throw (.saving (.undeletable name)), store)
  | .error fault => (throw fault, store)
  | .ok () =>
    match store.entries.get? name with
    | none => (pure false, store)
    | some .folder => (throw (.saving (.undeletable name)), store)
    | some _ => (pure true, ⟨store.entries.erase name⟩)

/-- Deletes the file of a slot, and tells whether there was one. -/
def delete (store : FolderStore) (id : Document) : Result Bool × FolderStore :=
  match fileNameOf id with
  | .error fault => (throw fault, store)
  | .ok name => store.unlink name

/-- Deletes slots, but never the one to keep. -/
def drop (store : FolderStore) (keep : Document) : List SaveSlot → Result Unit × FolderStore
  | [] => (pure (), store)
  | slot :: slots =>
    if slot.id = keep then drop store keep slots
    else
      match store.delete slot.id with
      | (.ok _, store) => drop store keep slots
      | (.error fault, store) => (throw fault, store)

def prune (store : FolderStore) (keep : Document) : Result Unit × FolderStore :=
  match store.slots >>= SaveSlot.overLimit with
  | .ok slots => store.drop keep slots
  | .error fault => (throw fault, store)

/-- Writes a game to the file of its slot.  It is written first to a file beside it, whose name is a
byte shorter. -/
def write (store : FolderStore) (slot : SaveSlot) (state : GameState) : Result FolderStore := do
  let name ← fileNameOf slot.id
  checkName (nameLimit + 1) name
  let archive := slot.archive state
  if !archive.isWritable || nameLimit < name.utf8ByteSize ||
      store.entries.get? name = some .folder then
    throw (.saving (.unwritable name))
  else pure ⟨store.entries.insert name (.document archive)⟩

/-- What follows when a game was written: one that a player saved may push others out. -/
def makeRoom (store : FolderStore) (slot : SaveSlot) : Result SaveSlot × FolderStore :=
  if slot.isAutosave then (pure slot, store)
  else
    let (result, store) := store.prune slot.id
    (result.map fun _ => slot, store)

def save (store : FolderStore) (slot : SaveSlot) (state : GameState) :
    Result SaveSlot × FolderStore :=
  match store.write slot state with
  | .ok written => written.makeRoom slot
  | .error fault => (throw fault, store)

def load (store : FolderStore) (now : Instant) (id : String) : Result GameState := do
  let name ← fileName id
  if ← store.hasFile name then GameState.ofArchive now id (← store.read name)
  else throw (.saving (.slotNotFound id))

end FolderStore

end InteractiveFiction
