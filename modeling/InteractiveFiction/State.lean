import InteractiveFiction.State.Flag
import InteractiveFiction.State.Player
import InteractiveFiction.State.Progress
import InteractiveFiction.State.Settings
import InteractiveFiction.State.TimedEffect

/-!
The whole state of one play-through, and the document it is saved as.

* `GameState.starting`: a fresh state at the first scene of a story.
* `GameState.ofDocument` and `GameState.toDocument`: reading and writing saved states.
-/

set_option autoImplicit false

namespace InteractiveFiction

/-- When a state was made and last changed, and the version of its format. -/
structure StateMetadata where
  createdAt : Document
  lastModified : Document
  version : Document := "1.0.0"
deriving DecidableEq

namespace StateMetadata

def ofDocument (now : Instant) (d : Document) : Result StateMetadata := do
  let fields ← d.fields "get"
  pure {
    createdAt := fields.getOr "createdAt" (Timestamp.text now)
    lastModified := fields.getOr "lastModified" (Timestamp.text now)
    version := fields.getD "version" "1.0.0" }

def toDocument (metadata : StateMetadata) : Document :=
  .object [("createdAt", metadata.createdAt), ("lastModified", metadata.lastModified),
    ("version", metadata.version)]

end StateMetadata

structure GameState where
  id : Document
  storyId : Document
  currentSceneId : Document
  player : Player
  inventory : List Item := []
  flags : Flags := .empty
  relationships : OrderedMap Int := .empty
  progress : Progress := {}
  settings : Settings := {}
  timedEffects : OrderedMap TimedEffect := .empty
  metadata : StateMetadata
deriving DecidableEq

/-! ## Relationships -/

def relationshipMin : Int := -100

def relationshipMax : Int := 100

def clampInt (value low high : Int) : Int :=
  max low (min high value)

def clampRelationship (value : Int) : Int :=
  clampInt value relationshipMin relationshipMax

namespace GameState

/-! ## Queries -/

def relationship (state : GameState) (character : Document) : Int :=
  (character.text?.bind state.relationships.get?).getD 0

def findItem? (state : GameState) (id : Document) : Option Item :=
  state.inventory.find? fun item => .text item.id == id

/-- The total quantity of the items with an id or a name. -/
def itemQuantity (state : GameState) (idOrName : String) : Int :=
  let found := state.inventory.filter fun item =>
    item.id == idOrName || item.name == .text idOrName
  (found.map Item.quantity).foldr (· + ·) 0

def countItem (state : GameState) (id : Document) : Int :=
  let found := state.inventory.filter fun item => .text item.id == id
  (found.map Item.quantity).foldr (· + ·) 0

def usedSlots (state : GameState) : Int :=
  (state.inventory.map Item.quantity).foldr (· + ·) 0

def hasVisited (state : GameState) (scene : Document) : Bool :=
  state.progress.scenesVisited.any scene.equals

def hasMadeChoice (state : GameState) (choice : Document) : Bool :=
  state.progress.choicesMade.any fun record => choice.equals record.choice

def hasAchievement (state : GameState) (achievement : Document) : Bool :=
  state.progress.achievementsUnlocked.any achievement.equals

def touch (state : GameState) (now : Instant) : GameState :=
  { state with metadata := { state.metadata with lastModified := Timestamp.text now } }

/-! ## Making and reading -/

def starting (now : Instant) (id story scene player : Document) (settings : Settings) :
    GameState where
  id := id
  storyId := story
  currentSceneId := scene
  player := .starting player
  progress := { scenesVisited := [scene] }
  settings := settings
  metadata := { createdAt := Timestamp.text now, lastModified := Timestamp.text now }

def requiredFields : List String := ["id", "storyId", "currentSceneId", "player"]

def relationshipsOf (fields : Fields) : Result (OrderedMap Int) :=
  fields.foldlM (fun known (key, value) => do
    pure (known.insert key (clampRelationship (← value.toInt)))) .empty

def timedEffectsOf (fields : Fields) : Result (OrderedMap TimedEffect) :=
  fields.foldlM (fun known (key, value) => do
    pure (known.insert key (← TimedEffect.ofDocument value))) .empty

def ofDocument (now : Instant) (d : Document) : Result GameState := do
  let fields ← d.fields "get"
  let lacking := requiredFields.filter fun key => !(fields.getD key .null).isTruthy
  if !lacking.isEmpty then throw (.content (.stateLacks lacking))
  let .list items := fields.getD "inventory" (.list []) |
    throw (.content .inventoryNotList)
  let optional (key : String) := fields.getOr key (.object [])
  let player ← Player.ofDocument (fields.getD "player" .null)
  let inventory ← items.mapM Item.ofDocument
  let flags ← Flags.ofFields (← (optional "flags").fields "items")
  let relationships ← relationshipsOf (← (optional "relationships").fields "items")
  let progress ← Progress.ofDocument now (optional "progress")
  let settings ← Settings.ofDocument (optional "settings")
  let timedEffects ← timedEffectsOf (← (optional "timedEffects").fields "items")
  let metadata ← StateMetadata.ofDocument now (optional "metadata")
  pure {
    id := fields.getD "id" .null
    storyId := fields.getD "storyId" .null
    currentSceneId := fields.getD "currentSceneId" .null
    player, inventory, flags, relationships, progress, settings, timedEffects, metadata }

def toDocument (state : GameState) : Document :=
  .object [("id", state.id), ("storyId", state.storyId),
    ("currentSceneId", state.currentSceneId), ("player", state.player.toDocument),
    ("inventory", .list (state.inventory.map Item.toDocument)),
    ("flags", state.flags.toDocument),
    ("relationships",
      .object (state.relationships.entries.map fun (key, value) => (key, .int value))),
    ("progress", state.progress.toDocument), ("settings", state.settings.toDocument),
    ("timedEffects",
      .object (state.timedEffects.entries.map fun (key, effect) => (key, effect.toDocument))),
    ("metadata", state.metadata.toDocument)]

end GameState

end InteractiveFiction
