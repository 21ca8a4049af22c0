import InteractiveFiction.Document.Coercion
import InteractiveFiction.Timestamp

/-!
Events: what a game announces to whoever listens.

An event has a name and a payload; when it is published it is given the time.  This module is the
one place where names and payloads are laid down.
-/

set_option autoImplicit false

namespace InteractiveFiction

structure Event where
  name : String
  payload : Fields := []
deriving DecidableEq

structure EventRecord where
  event : Event
  timestamp : Instant
deriving DecidableEq

namespace Event

/-! ## Turns of a game -/

def gameStarted (state story : Document) : Event :=
  ⟨"gameStarted", [("state_id", state), ("story_id", story)]⟩

def gameLoaded (state slot : Document) : Event :=
  ⟨"gameLoaded", [("state_id", state), ("slot_id", slot)]⟩

def gamePaused : Event := ⟨"gamePaused", []⟩

def gameResumed : Event := ⟨"gameResumed", []⟩

def gameSaved (slot : Document) (autosave : Bool) : Event :=
  ⟨"gameSaved", [("slot", slot), ("autosave", .bool autosave)]⟩

def gameEnded (state : Document) (scenesVisited : Nat) (achievements : List Document) : Event :=
  ⟨"gameEnded", [("state_id", state), ("scenes_visited", .int scenesVisited),
    ("achievements", .list achievements)]⟩

def sceneChanged (id scene : Document) : Event :=
  ⟨"sceneChanged", [("scene_id", id), ("scene", scene)]⟩

def choiceMade (choice scene text : Document) : Event :=
  ⟨"choiceMade", [("choice_id", choice), ("scene_id", scene), ("text", text)]⟩

def progressUpdated (progress : Int) : Event :=
  ⟨"progressUpdated", [("progress", .int progress)]⟩

def achievementUnlocked (achievement name : Document) (points : Int) : Event :=
  ⟨"achievementUnlocked",
    [("achievement_id", achievement), ("name", name), ("points", .int points)]⟩

def settingsUpdated (settings : Document) : Event :=
  ⟨"settingsUpdated", [("settings", settings)]⟩

/-- A failed operation, with the family of its fault. -/
def error (operation family message : String) : Event :=
  ⟨"error", [("operation", operation), ("error_type", family), ("message", message)]⟩

/-! ## Effects -/

def effectProcessed (outcome : Document) : Event :=
  ⟨"effectProcessed", [("result", outcome)]⟩

/-- A whole bundle was applied; `queued` when it had waited for another one. -/
def effectsProcessed (outcomes : List Document) (queued : Bool) : Event :=
  ⟨"effectsProcessed", [("results", .list outcomes), ("queued", .bool queued)]⟩

def criticalHealth (health maxHealth : Int) : Event :=
  ⟨"criticalHealth", [("health", .int health), ("max_health", .int maxHealth)]⟩

def playerDeath (cause : String) : Event :=
  ⟨"playerDeath", [("cause", cause)]⟩

def levelUp (oldLevel newLevel : Int) (experience : Number) : Event :=
  ⟨"levelUp", [("old_level", .int oldLevel), ("new_level", .int newLevel),
    ("experience", .number experience)]⟩

def teleport (target : Document) : Event :=
  ⟨"teleport", [("target_scene", target)]⟩

def timedEffectExpired (key : String) (kind type : Document) : Event :=
  ⟨"timedEffectExpired", [("key", key), ("kind", kind), ("type", type)]⟩

def authored (name : String) (state : Document) : Event :=
  ⟨"gameEvent", [("name", name), ("state_id", state)]⟩

/-! ## Items and characters -/

def inventoryChanged (action item : String) (quantity : Int) : Event :=
  ⟨"inventoryChanged", [("action", action), ("item_id", item), ("quantity", .int quantity)]⟩

def inventorySorted (key : String) : Event :=
  ⟨"inventoryChanged", [("action", "sort"), ("sort_by", key)]⟩

def inventoryFull (items : List String) (required capacity : Int) : Event :=
  ⟨"inventoryFull", [("item_ids", .list (items.map Document.text)), ("required", .int required),
    ("capacity", .int capacity)]⟩

def itemUsed (item : String) (success : Bool) (message : String) : Event :=
  ⟨"itemUsed", [("item_id", item), ("success", .bool success), ("message", message)]⟩

def relationshipChanged (character : String) (oldValue newValue : Int) : Event :=
  ⟨"relationshipChanged", [("character_id", character), ("old_value", .int oldValue),
    ("new_value", .int newValue), ("change", .int (newValue - oldValue))]⟩

def characterInteraction (character : Document) (kind : String) (success : Bool) : Event :=
  ⟨"characterInteraction", [("character_id", character), ("kind", kind),
    ("success", .bool success)]⟩

end Event

end InteractiveFiction
