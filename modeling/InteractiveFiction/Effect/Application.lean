import InteractiveFiction.Cast
import InteractiveFiction.Effect.Custom
import InteractiveFiction.Inventory
import InteractiveFiction.State.Player

/-!
The application of a bundle to a state.

* `Effect.parts`: what a bundle asks for, in the order in which it is done: health, mana, gold,
  experience, attributes, flags, items added, items removed, relationships, sound, music, custom
  effects, events.
* `Effect.apply`: does the parts one after another and announces each outcome.
-/

set_option autoImplicit false

namespace InteractiveFiction

namespace Effect

/-! ## Vital numbers -/

/-- A gain or a loss in words. -/
def inWords (gain loss noun : String) (isGain : Bool) (old new : Number) : Result String := do
  if isGain then pure s!"{gain} {← (new - old).written} {noun}"
  else pure s!"{loss} {← (old - new).written} {noun}"

def changeOutcome (type description : String) (old new : Number) (metadata : Fields) :
    Action Outcome := do
  pure {
    type, description, metadata
    oldValue := .number old, newValue := .number new, change := .number (new - old)
    timestamp := Timestamp.text (← Action.now) }

/-- The whole number within bounds that a change leads to. -/
def changed (old : Int) (delta : Number) (limit : Int) : Result Int := do
  (Number.clamp (← Number.plus (.int old) delta) 0 (.int limit)).toInt

/-- Health at this share of its maximum is critical. -/
def criticalHealthRatio : Float := 0.2

def isCritical (health maxHealth : Int) : Result Bool := do
  let threshold := (← (Number.int maxHealth).toFloat?) * criticalHealthRatio
  pure ((Number.int health).le (.float threshold))

def applyHealth (delta : Number) : Action Outcome := do
  let player := (← Action.state).player
  let new ← changed player.health delta player.maxHealth
  Action.modifyPlayer fun player => { player with health := new }
  if ← isCritical new player.maxHealth then
    Action.publish (.criticalHealth new player.maxHealth)
  if new ≤ 0 then Action.publish (.playerDeath "health")
  let description ←
    inWords "Restored" "Took" (if (0 : Number).lt delta then "health" else "damage")
      ((0 : Number).lt delta) player.health new
  changeOutcome "health" description player.health new []

def applyMana (delta : Number) : Action Outcome := do
  let player := (← Action.state).player
  let new ← changed player.mana delta player.maxMana
  Action.modifyPlayer fun player => { player with mana := new }
  let description ← inWords "Restored" "Spent" "mana" ((0 : Number).lt delta) player.mana new
  changeOutcome "mana" description player.mana new []

def applyGold (delta : Int) : Action Outcome := do
  let old := (← Action.state).player.gold
  let new := max 0 (old + delta)
  Action.modifyPlayer fun player => { player with gold := new }
  let description ← inWords "Gained" "Spent" "gold" (decide (0 < delta)) old new
  changeOutcome "gold" description old new []

/-- Experience may raise the level, never lower it; a new level restores health and mana. -/
def applyExperience (delta : Number) : Action Outcome := do
  let player := (← Action.state).player
  let old := player.experience
  let new := Number.max 0 (← old.plus delta)
  Action.modifyPlayer fun player => { player with experience := new }
  let level := max player.level (← levelFor new)
  let description ← inWords "Gained" "Lost" "experience" ((0 : Number).lt delta) old new
  if player.level < level then
    Action.modifyPlayer fun player =>
      { player with level, health := player.maxHealth, mana := player.maxMana }
    Action.publish (.levelUp player.level level new)
    changeOutcome "experience" s!"{description} - reached level {level}!" old new
      [("levelUp", .bool true), ("newLevel", .int level)]
  else changeOutcome "experience" description old new []

/-! ## Attributes and flags -/

/-- Adds to the attributes a player has; none falls below one. -/
def raise (attributes deltas : OrderedMap Int) : OrderedMap Int :=
  deltas.entries.foldl (fun attributes (name, delta) =>
    match attributes.get? name with
    | some value => attributes.insert name (max 1 (value + delta))
    | none => attributes) attributes

def signed (n : Int) : Result String := do
  let digits ← (Number.int n).written
  pure (if 0 < n then "+" ++ digits else digits)

def applyAttributes (deltas : OrderedMap Int) : Action Outcome := do
  let old := (← Action.state).player.attributes
  let new := raise old deltas
  Action.modifyPlayer fun player => { player with attributes := new }
  let known := deltas.entries.filter fun (name, _) => old.contains name
  let ignored := deltas.keys.filter fun name => !old.contains name
  let changes ← (known.mapM fun (name, delta) => do pure s!"{name} {← signed delta}" :
    Result (List String))
  pure {
    type := "attributes"
    description := "Attributes changed: " ++ ", ".intercalate changes
    oldValue := Player.attributesDocument old, newValue := Player.attributesDocument new
    metadata :=
      if ignored.isEmpty then [] else [("ignored", .list (ignored.map Document.text))]
    timestamp := Timestamp.text (← Action.now) }

def applyFlags (flags : Flags) : Action Outcome := do
  let old := (← Action.state).flags
  let changes := flags.entries.map fun (key, value) =>
    (key, Document.object [("old", old.value (.text key)), ("new", value.toDocument)])
  Action.modifyState fun state => { state with flags := state.flags.setAll flags }
  pure {
    type := "flags", description := "Flags set: " ++ ", ".intercalate flags.keys
    metadata := [("changedFlags", .object changes)]
    timestamp := Timestamp.text (← Action.now) }

/-! ## Items and relationships -/

/-- Names one after another, each of which must be a text. -/
def listed (names : List Document) : Result String :=
  Document.joined ", " names

def applyAddItems (items : List Item) : Action Outcome := do
  let added ← Inventory.addItems items
  let timestamp := Timestamp.text (← Action.now)
  if added then
    let names ← listed (items.map Item.name)
    pure {
      type := "addItems", description := "Items received: " ++ names
      metadata := [("itemsAdded", .int items.length)], timestamp }
  else
    pure {
      type := "addItems", success := false, description := "Inventory full"
      error := some "inventory full", metadata := [("itemsAdded", .int 0)], timestamp }

def applyRemoveItems (removals : List ItemRemoval) : Action Outcome := do
  let removed ← Inventory.removeItems removals
  let timestamp := Timestamp.text (← Action.now)
  if removed then
    let names ← listed (removals.map ItemRemoval.title)
    pure {
      type := "removeItems", description := "Items removed: " ++ names
      metadata := [("itemsRemoved", .int removals.length)], timestamp }
  else
    pure {
      type := "removeItems", success := false, description := "No items removed"
      error := some "missing items", metadata := [("itemsRemoved", .int 0)], timestamp }

def applyRelationships (deltas : OrderedMap Int) : Action Outcome := do
  let changes ← deltas.entries.mapM fun (character, delta) => do
    let old := (← Action.state).relationship character
    let new ← adjustRelationship character (.int delta)
    pure (character, Document.object [("old", .int old), ("new", .int new),
      ("change", .int (new - old))])
  pure {
    type := "relationships"
    description := "Relationships changed: " ++ ", ".intercalate deltas.keys
    metadata := [("changedRelationships", .object changes)]
    timestamp := Timestamp.text (← Action.now) }

/-! ## Audio -/

/-- Plays a cue where cues are wanted and there is a sink; a refusal is a failed outcome. -/
def applyCue (type muted played : String) (enabled : Document) (cue : AudioCue)
    (call : AudioCall) : Action Outcome := do
  let timestamp := Timestamp.text (← Action.now)
  let metadata : Fields := [("file", cue.file)]
  match (← get).audio with
  | some sink =>
    if enabled.isTruthy then
      match ← Action.play sink call with
      | some complaint =>
        pure {
          type, success := false, description := s!"Could not play {cue.file.display}"
          error := some complaint, timestamp }
      | none => pure { type, description := s!"{played} {cue.file.display}", metadata, timestamp }
    else pure { type, description := muted, metadata, timestamp }
  | none => pure { type, description := muted, metadata, timestamp }

def applySound (cue : AudioCue) : Action Outcome := do
  applyCue "sound" "Sound muted" "Played" (← Action.state).settings.soundEnabled cue
    (.playSound cue.file (Document.ofOption cue.volume) cue.loop)

def applyMusic (cue : AudioCue) : Action Outcome := do
  applyCue "music" "Music muted" "Playing" (← Action.state).settings.musicEnabled cue
    (.playMusic cue.file (Document.ofOption cue.volume))

/-! ## Events -/

def applyEvents (names : List String) : Action Outcome := do
  let id := (← Action.state).id
  for name in names do Action.publish (.authored name id)
  pure {
    type := "events", description := "Events triggered: " ++ ", ".intercalate names
    metadata := [("events", .list (names.map Document.text))]
    timestamp := Timestamp.text (← Action.now) }

/-! ## Bundles -/

def parts (effect : Effect) : List (Action Outcome) :=
  (effect.health.map applyHealth).toList ++
    (effect.mana.map applyMana).toList ++
    (effect.gold.map applyGold).toList ++
    (effect.experience.map applyExperience).toList ++
    (if effect.attributes.isEmpty then [] else [applyAttributes effect.attributes]) ++
    (if effect.flags.isEmpty then [] else [applyFlags effect.flags]) ++
    (if effect.addItems.isEmpty then [] else [applyAddItems effect.addItems]) ++
    (if effect.removeItems.isEmpty then [] else [applyRemoveItems effect.removeItems]) ++
    (if effect.relationships.isEmpty then [] else [applyRelationships effect.relationships]) ++
    (effect.sound.map applySound).toList ++
    (effect.music.map applyMusic).toList ++
    effect.custom.map CustomEffect.apply ++
    (if effect.events.isEmpty then [] else [applyEvents effect.events])

def perform (part : Action Outcome) : Action Outcome := do
  let outcome ← part
  Action.publish (.effectProcessed outcome.toDocument)
  pure outcome

def apply (effect : Effect) : Action (List Outcome) :=
  effect.parts.mapM perform

/-- Marks the state as changed and announces that a bundle was applied. -/
def finish (outcomes : List Outcome) (queued : Bool) : Action Unit := do
  let now ← Action.now
  Action.modifyState fun state => state.touch now
  Action.publish (.effectsProcessed (outcomes.map Outcome.toDocument) queued)

/-- Applies a bundle where nobody answers its events with bundles of their own. -/
def process (effect : Effect) : Action (List Outcome) := do
  let outcomes ← effect.apply
  finish outcomes false
  pure outcomes

end Effect

end InteractiveFiction
