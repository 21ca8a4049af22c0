import InteractiveFiction.State

/-!
Save slots: the summary of a saved game, and the order and number of slots.

Slots are listed the newest first.  Slots that players made are kept up to a limit; those that the
game made by itself are not counted.
-/

set_option autoImplicit false

namespace InteractiveFiction

structure SaveSlot where
  id : Document
  name : Document := ""
  storyId : Document := ""
  stateId : Document := ""
  sceneId : Document := ""
  playerLevel : Int := 1
  playtime : Int := 0
  storyProgress : Int := 0
  isAutosave : Bool := false
  savedAt : Document := ""
deriving DecidableEq

namespace SaveSlot

def ofState (now : Instant) (id : String) (state : GameState) (name : Document)
    (isAutosave : Bool) : SaveSlot where
  id := id
  name := name
  storyId := state.storyId
  stateId := state.id
  sceneId := state.currentSceneId
  playerLevel := state.player.level
  playtime := state.progress.playtime
  storyProgress := state.progress.storyProgress
  isAutosave := isAutosave
  savedAt := Timestamp.text now

def toDocument (slot : SaveSlot) : Document :=
  .object [("id", slot.id), ("name", slot.name), ("storyId", slot.storyId),
    ("stateId", slot.stateId), ("sceneId", slot.sceneId),
    ("playerLevel", .int slot.playerLevel), ("playtime", .int slot.playtime),
    ("storyProgress", .int slot.storyProgress), ("isAutosave", .bool slot.isAutosave),
    ("savedAt", slot.savedAt)]

def ofDocument (d : Document) : Result SaveSlot := do
  let id ← d.require "id"
  let fields ← d.fields "get"
  let playerLevel ← (fields.getD "playerLevel" (.int 1)).toInt
  let playtime ← (fields.getD "playtime" (.int 0)).toInt
  let storyProgress ← (fields.getD "storyProgress" (.int 0)).toInt
  pure {
    id, playerLevel, playtime, storyProgress
    name := fields.getD "name" ""
    storyId := fields.getD "storyId" ""
    stateId := fields.getD "stateId" ""
    sceneId := fields.getD "sceneId" ""
    isAutosave := (fields.getD "isAutosave" (.bool false)).isTruthy
    savedAt := fields.getD "savedAt" "" }

/-- The id of the one slot that a play-through is saved to by itself. -/
def autosaveId (state : GameState) : String :=
  "autosave_" ++ state.id.display

/-- What is stored of a saved game. -/
def archive (slot : SaveSlot) (state : GameState) : Document :=
  .object [("slot", slot.toDocument), ("state", state.toDocument)]

def ofArchive (archive : Document) : Result SaveSlot := do
  ofDocument (← archive.require "slot")

/-! ## Order and number -/

/-- How many slots that players made are kept. -/
def limit : Nat := 10

def isAtLeastAsNew (a b : SaveSlot) : Bool :=
  a.savedAt.order? b.savedAt != some .lt

def comparable : List SaveSlot → Bool
  | [] => true
  | a :: rest => rest.all (fun b => a.savedAt.isComparable b.savedAt) && comparable rest

/-- Slots in the order they were written, the newest first; of equal times the last written. -/
def newestFirst (slots : List SaveSlot) : Result (List SaveSlot) :=
  if comparable slots then pure (slots.reverse.mergeSort isAtLeastAsNew)
  else throw (.mistyped (.operand "the times of slots have no common order"))

/-- The slots made by players that are beyond the limit. -/
def overLimit (slots : List SaveSlot) : Result (List SaveSlot) := do
  pure (((← newestFirst slots).filter fun slot => !slot.isAutosave).drop limit)

end SaveSlot

namespace GameState

/-- The state of a stored game; what is malformed in it makes the slot corrupt. -/
def ofArchive (now : Instant) (slot : String) (archive : Document) : Result GameState :=
  match archive.require "state" >>= ofDocument now with
  | .error fault =>
    throw (if fault.isOfReading then .saving (.slotCorrupt slot fault.message) else fault)
  | result => result

/-- The same of a copy, which is made by writing the document and reading it. -/
def ofCopy (now : Instant) (slot : String) (archive : Document) : Result GameState :=
  if archive.isWritable then ofArchive now slot archive
  else throw (.value .intUnwritable)

end GameState

end InteractiveFiction
