import InteractiveFiction.Stage
import InteractiveFiction.Story.Character

/-!
The cast: the characters of the current scene, and how the player gets on with them.

* `Cast`: who is present, and what is remembered of everyone who was.
* `Cast.interact`: talking, trading, asking for a quest, giving.
* `adjustRelationship`: the one way in which a relationship changes.
-/

set_option autoImplicit false

namespace InteractiveFiction

inductive InteractionKind where
  | talk | trade | quest | gift
deriving DecidableEq, Repr

namespace InteractionKind

def label : InteractionKind → String
  | .talk => "talk"
  | .trade => "trade"
  | .quest => "quest"
  | .gift => "gift"

def ofDocument? : Document → Option InteractionKind
  | .text "talk" => some .talk
  | .text "trade" => some .trade
  | .text "quest" => some .quest
  | .text "gift" => some .gift
  | _ => none

end InteractionKind

/-- What is remembered of a character. -/
structure Disposition where
  mood : String := "neutral"
  lastInteraction : Option InteractionKind := none
  lastGiftAt : Option Instant := none
deriving DecidableEq

structure Interaction where
  kind : InteractionKind
  success : Bool
  message : Document
  character : Document
  options : List Document := []
  tradeItems : List Document := []
  quest : Option Quest := none
  preferences : Fields := []
  metadata : Fields := []
deriving DecidableEq

namespace Interaction

def toDocument (interaction : Interaction) : Document :=
  .object [("type", .text interaction.kind.label), ("success", .bool interaction.success),
    ("message", interaction.message), ("characterId", interaction.character),
    ("options", .list interaction.options), ("tradeItems", .list interaction.tradeItems),
    ("quest", Document.ofOption (interaction.quest.map Quest.toDocument)),
    ("preferences", .object interaction.preferences),
    ("metadata", .object interaction.metadata)]

end Interaction

/-- Dispositions outlive the scenes in which they were formed. -/
structure Cast where
  present : List Character := []
  known : List (Document × Disposition) := []
deriving DecidableEq

/-! ## Relationships and prices -/

/-- The relationship that a change leads to, within its bounds; a fraction is dropped. -/
def changedRelationship (old : Int) : Number → Int
  | .int delta => clampRelationship (old + delta)
  | .float delta =>
    let sum := Number.int old + .float delta
    ((sum.clamp (.int relationshipMin) (.int relationshipMax)).truncate?).getD old

/-- Changes a relationship, and announces it unless it stays as it was. -/
def adjustRelationship (character : String) (delta : Number) : Action Int := do
  let old := (← Action.state).relationship character
  let new := changedRelationship old delta
  Action.modifyState fun state =>
    { state with relationships := state.relationships.insert character new }
  if new ≠ old then Action.publish (.relationshipChanged character old new)
  pure new

/-- Friends pay less, within a half and one and a half. -/
def priceModifier (relationship : Number) : Result Float := do
  let discount ← relationship.dividedBy 1000
  pure (Number.clamp (.float (1.0 - discount)) (.float 0.5) (.float 1.5)).toFloat

/-- Below this a character does not trade. -/
def tradeRefusalThreshold : Int := -50

/-- Seconds between two gifts to one character. -/
def giftCooldown : Int := 86400

/-! ## What characters say and ask -/

namespace DialogueLine

def wantsFlag (state : GameState) (flag : String) (value : Document) : Bool :=
  let held := state.flags.value flag
  held.equals value && held.isBool == value.isBool

def isOpen (state : GameState) (relationship : Int) (line : DialogueLine) : Result Bool := do
  let reached ←
    match line.minRelationship with
    | .null => pure true
    | least =>
      match least.number? with
      | some least => pure !(Number.int relationship).lt least
      | none => throw (.mistyped (.operand
          s!"'<' not supported between instances of 'int' and '{least.kind}'"))
  pure (reached && line.requiredFlags.all fun (flag, value) => wantsFlag state flag value)

def distance (relationship : Int) (line : DialogueLine) : Nat :=
  (line.optimalRelationship - relationship).natAbs

/-- Whether a line is to be said rather than another: for its priority, then for its distance. -/
def beats (relationship : Int) (line other : DialogueLine) : Bool :=
  decide (other.priority < line.priority) ||
    (line.priority == other.priority &&
      decide (line.distance relationship < other.distance relationship))

/-- The line that no other one beats, the first of several. -/
def best? (relationship : Int) : List DialogueLine → Option DialogueLine
  | [] => none
  | line :: lines =>
    match best? relationship lines with
    | some other => if other.beats relationship line then some other else some line
    | none => some line

end DialogueLine

namespace Quest

def isOpen (state : GameState) (relationship : Int) (quest : Quest) : Bool :=
  let isSet (flag : Document) := state.flags.isSet flag
  !isSet s!"quest_{quest.id.display}_completed" && !isSet s!"quest_{quest.id.display}_active" &&
    quest.prerequisites.all isSet && decide (quest.requiredRelationship ≤ relationship)

end Quest

namespace Character

def openLines (state : GameState) (relationship : Int) (character : Character) :
    Result (List DialogueLine) :=
  character.dialogue.filterM fun line => line.isOpen state relationship

def openQuests (state : GameState) (relationship : Int) (character : Character) : List Quest :=
  character.quests.filter fun quest => quest.isOpen state relationship

def mood (character : Character) (relationship : Int) (kind : InteractionKind) : String :=
  if 50 < relationship then "happy"
  else if relationship < -50 then "angry"
  else if character.traits.contains "shy" && kind = .talk then "nervous"
  else if character.traits.contains "greedy" && kind = .trade then "excited"
  else "neutral"

/-! ## Interactions -/

def refuse (character : Character) (kind : InteractionKind) (reason : String) : Interaction where
  kind := kind
  success := false
  message := .text (character.name.display ++ reason)
  character := character.id

def talk (state : GameState) (relationship : Int) (character : Character) :
    Result Interaction := do
  match DialogueLine.best? relationship (← character.openLines state relationship) with
  | some line =>
    pure {
      kind := .talk, success := true, message := line.text, character := character.id
      options := line.responses, metadata := [("relationship", .int relationship)] }
  | none => pure (character.refuse .talk " has nothing to say.")

def trade (relationship : Int) (character : Character) : Result Interaction := do
  if character.tradeItems.isEmpty || relationship < tradeRefusalThreshold then
    pure (character.refuse .trade " does not want to trade.")
  else
    let modifier ← priceModifier (.int relationship)
    pure {
      kind := .trade, success := true
      message := .text s!"{character.name.display} shows their wares."
      character := character.id, tradeItems := character.tradeItems
      metadata := [("relationship", .int relationship), ("priceModifier", .float modifier)] }

def offerQuest (state : GameState) (relationship : Int) (character : Character) : Interaction :=
  match character.openQuests state relationship with
  | quest :: _ =>
    { kind := .quest, success := true, message := quest.description, character := character.id
      quest := some quest
      metadata := [("questId", quest.id),
        ("requiredRelationship", .int quest.requiredRelationship)] }
  | [] => character.refuse .quest " has no tasks for you."

def isSated (now : Instant) (disposition : Disposition) : Bool :=
  match disposition.lastGiftAt with
  | some last => (Number.float (now - last)).lt (.int giftCooldown)
  | none => false

def receive (now : Instant) (relationship : Int) (disposition : Disposition)
    (character : Character) : Interaction × Disposition :=
  let lastGift := Document.ofOption (disposition.lastGiftAt.map Document.float)
  if isSated now disposition then
    ({ character.refuse .gift " does not want any more gifts today." with
        metadata := [("lastGift", lastGift)] }, disposition)
  else
    ({ kind := .gift, success := true
       message := .text s!"{character.name.display} is delighted by gifts."
       character := character.id, preferences := character.preferences
       metadata := [("relationship", .int relationship), ("lastGift", lastGift)] },
      { disposition with lastGiftAt := some now })

end Character

namespace Cast

def disposition? (cast : Cast) (id : Document) : Option Disposition :=
  cast.known.lookup id

def remember (cast : Cast) (id : Document) (disposition : Disposition) : Cast :=
  if (cast.disposition? id).isSome then
    { cast with known := cast.known.map fun (known, old) =>
        if known == id then (known, disposition) else (known, old) }
  else { cast with known := cast.known ++ [(id, disposition)] }

def meet (cast : Cast) (id : Document) : Cast :=
  if (cast.disposition? id).isSome then cast else cast.remember id {}

/-- Each character once, where it was first named and as it was last given. -/
def distinct (characters : List Character) : List Character :=
  characters.foldl (fun known character =>
    if known.any fun c => c.id == character.id then
      known.map fun c => if c.id == character.id then character else c
    else known ++ [character]) []

def enter (cast : Cast) (characters : List Character) : Cast :=
  characters.foldl (fun cast character => cast.meet character.id)
    { cast with present := distinct characters }

def character? (cast : Cast) (id : Document) : Option Character :=
  cast.present.find? fun character => character.id == id

/-- An interaction, and what the character will remember of it. -/
def respond (now : Instant) (state : GameState) (disposition : Disposition)
    (character : Character) (kind : InteractionKind) : Result (Interaction × Disposition) := do
  let relationship := state.relationship character.id
  match kind with
  | .talk => pure ((← character.talk state relationship), disposition)
  | .trade => pure ((← character.trade relationship), disposition)
  | .quest => pure (character.offerQuest state relationship, disposition)
  | .gift => pure (character.receive now relationship disposition)

def interact (cast : Cast) (id kind : Document) : Action (Interaction × Cast) := do
  match cast.character? id with
  | none =>
    id.checkKey
    throw (.content (.characterAbsent id))
  | some character =>
    match InteractionKind.ofDocument? kind with
    | none => throw (.content (.unknownInteraction kind))
    | some kind =>
      let state ← Action.state
      let disposition := (cast.disposition? id).getD {}
      let (interaction, disposition) ←
        respond (← Action.now) state disposition character kind
      let mood := character.mood (state.relationship id) kind
      Action.publish (.characterInteraction id kind.label interaction.success)
      pure ({ interaction with metadata := interaction.metadata ++ [("mood", .text mood)] },
        cast.remember id { disposition with mood, lastInteraction := some kind })

end Cast

end InteractiveFiction
