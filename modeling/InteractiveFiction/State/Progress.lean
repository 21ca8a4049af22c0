import InteractiveFiction.Document.Coercion
import InteractiveFiction.Timestamp

/-!
The history of a play-through: scenes visited, choices made, achievements unlocked, time played.
-/

set_option autoImplicit false

namespace InteractiveFiction

structure ChoiceRecord where
  choice : Document
  scene : Document := ""
  text : Document := ""
  timestamp : Document
deriving DecidableEq

namespace ChoiceRecord

def ofDocument (now : Instant) (d : Document) : Result ChoiceRecord := do
  let choice ← d.require "choiceId"
  let fields ← d.fields "get"
  pure {
    choice
    scene := fields.getD "sceneId" ""
    text := fields.getD "text" ""
    timestamp := fields.getOr "timestamp" (Timestamp.text now) }

def toDocument (record : ChoiceRecord) : Document :=
  .object [("choiceId", record.choice), ("sceneId", record.scene), ("text", record.text),
    ("timestamp", record.timestamp)]

end ChoiceRecord

structure Progress where
  scenesVisited : List Document := []
  choicesMade : List ChoiceRecord := []
  achievementsUnlocked : List Document := []
  /-- Ticks of play, one a second by default. -/
  playtime : Int := 0
  /-- Percent of the story's scenes that were visited. -/
  storyProgress : Int := 0
  /-- When the game was last saved, or null. -/
  lastSaved : Document := .null
deriving DecidableEq

namespace Progress

def ofDocument (now : Instant) (d : Document) : Result Progress := do
  let fields ← d.fields "get"
  let scenesVisited ← (fields.getD "scenesVisited" (.list [])).toItems
  let records ← (fields.getD "choicesMade" (.list [])).toItems
  let choicesMade ← records.mapM (ChoiceRecord.ofDocument now)
  let achievementsUnlocked ← (fields.getD "achievementsUnlocked" (.list [])).toItems
  let playtime ← (fields.getD "playtime" (.int 0)).toInt
  let storyProgress ← (fields.getD "storyProgress" (.int 0)).toInt
  pure {
    scenesVisited, choicesMade, achievementsUnlocked, playtime, storyProgress
    lastSaved := fields.getD "lastSaved" .null }

def toDocument (progress : Progress) : Document :=
  .object [("scenesVisited", .list progress.scenesVisited),
    ("choicesMade", .list (progress.choicesMade.map ChoiceRecord.toDocument)),
    ("achievementsUnlocked", .list progress.achievementsUnlocked),
    ("playtime", .int progress.playtime), ("storyProgress", .int progress.storyProgress),
    ("lastSaved", progress.lastSaved)]

end Progress

end InteractiveFiction
