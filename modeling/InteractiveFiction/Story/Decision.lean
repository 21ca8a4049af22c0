import InteractiveFiction.Condition
import InteractiveFiction.Story

/-!
Decisions on choices: whether a choice may be made now, and what it would bring.

A choice is refused for its conditions, then for its availability, then for its requirements, all
of which are reported, and last for the rule of its type.  Nothing here changes the state.
-/

set_option autoImplicit false

namespace InteractiveFiction

/-! ## Consequences -/

/-- What a choice would bring, for display. -/
structure Consequence where
  type : String
  description : String
  change : Option Document := none
  key : Option String := none
  value : Option Document := none
deriving DecidableEq

namespace Consequence

def toDocument (consequence : Consequence) : Document :=
  .object <|
    [("type", .text consequence.type), ("description", .text consequence.description)] ++
    Effect.optionalPart "change" consequence.change id ++
    Effect.optionalPart "key" consequence.key Document.text ++
    Effect.optionalPart "value" consequence.value id

/-- A gain or a loss of a number; nothing when it stays as it is. -/
def ofDelta (type gain loss : String) (delta : Option Number) : List Consequence :=
  match delta with
  | some change =>
    if change.isZero then []
    else [{ type, description := if (0 : Number).lt change then gain else loss,
            change := some (.number change) }]
  | none => []

def ofFlag (key : String) (flag : FlagValue) : Consequence :=
  { type := "flag", description := s!"Flag {key} set to {flag.toDocument.display}"
    key := some key, value := some flag.toDocument }

def ofRelationship (character : String) (change : Int) : Consequence :=
  { type := "relationship"
    description := if 0 < change then "Relationship improved" else "Relationship worsened"
    change := some (.int change), key := some character }

def ofItem (item : Item) : Consequence :=
  { type := "item", description := s!"Receive {item.name.display}"
    change := some (.int item.quantity), key := some item.id }

def ofRemoval (removal : ItemRemoval) : Consequence :=
  { type := "item", description := s!"Lose {removal.title.display}"
    change := some (.int (-removal.quantity)), key := some removal.id }

end Consequence

/-- The consequences of a bundle, in a fixed order of kinds. -/
def Effect.preview (effect : Effect) : List Consequence :=
  Consequence.ofDelta "health" "Health restored" "Health lost" effect.health ++
    Consequence.ofDelta "mana" "Mana restored" "Mana spent" effect.mana ++
    Consequence.ofDelta "gold" "Gold gained" "Gold spent" (effect.gold.map Number.int) ++
    Consequence.ofDelta "experience" "Experience gained" "Experience lost" effect.experience ++
    effect.flags.entries.map (fun (key, flag) => Consequence.ofFlag key flag) ++
    effect.relationships.entries.map
      (fun (character, change) => Consequence.ofRelationship character change) ++
    effect.addItems.map Consequence.ofItem ++
    effect.removeItems.map Consequence.ofRemoval

/-! ## Decisions -/

structure ChoiceResult where
  choice : Document
  success : Bool
  target : Document := .null
  effects : Effect := {}
  consequences : List Consequence := []
  error : Option String := none
  unmet : List Document := []
  timestamp : String
deriving DecidableEq

namespace ChoiceResult

def toDocument (result : ChoiceResult) : Document :=
  .object [("choiceId", result.choice), ("success", .bool result.success),
    ("targetSceneId", result.target), ("effects", result.effects.toDocument),
    ("consequences", .list (result.consequences.map Consequence.toDocument)),
    ("error", Document.ofOption (result.error.map Document.text)),
    ("unmetRequirements", .list result.unmet), ("timestamp", .text result.timestamp)]

end ChoiceResult

structure Refusal where
  error : String
  unmet : List Document := []
deriving DecidableEq

namespace Choice

variable (now : Instant) (state : GameState)

/-- The requirements of a choice that the state does not meet. -/
def unmetRequirements : List Requirement → Result (List Requirement)
  | [] => pure []
  | requirement :: requirements => do
    let met ← Condition.evaluate (Timestamp.hour now) state (← requirement.toCondition)
    let rest ← unmetRequirements requirements
    pure (if met then rest else requirement :: rest)

/-- The limit that is enforced on a timed choice. -/
def enforcedLimit (choice : Choice) : Result Float :=
  (choice.metadata.getD "timeLimit" (.float 30.0)).toFloat

/-- The limit a choice has run over, in words.  The time counts from the start that the metadata
gives, else from when the choice was presented. -/
def lateness (choice : Choice) (startedAt : Document) : Result (Option String) := do
  match choice.metadata.getD "startTime" startedAt with
  | .null => pure (some "Timed choice has no start time")
  | start =>
    let limit ← choice.enforcedLimit
    let elapsed := now - (← start.toFloat)
    pure (if (Number.float limit).le (.float elapsed) then
      some s!"Time limit of {(Number.float limit).brief}s exceeded" else none)

def refusalByType (choice : Choice) (startedAt : Document) : Result (Option Refusal) := do
  match choice.type with
  | .plain => pure none
  | .conditional =>
    let nested := choice.metadata.getD "conditions" .null
    if ← Condition.evaluate (Timestamp.hour now) state nested then pure none
    else pure (some { error := "Conditional requirements not met" })
  | .timed => pure ((← choice.lateness now startedAt).map fun error => { error })

def refusal (choice : Choice) (startedAt : Document) : Result (Option Refusal) := do
  if !(← Condition.evaluate (Timestamp.hour now) state choice.conditions) then
    return some { error := "Conditions not met" }
  if !choice.isAvailable then
    return some { error := "Choice is not available" }
  let unmet := (← unmetRequirements now state choice.requirements).map Requirement.describe
  if !unmet.isEmpty then
    let reasons ← Document.joined "; " unmet
    return some { error := "Requirements not met: " ++ reasons, unmet }
  choice.refusalByType now state startedAt

/-- The decision on a choice that was presented at `startedAt`. -/
def judge (choice : Choice) (startedAt : Document) : Result ChoiceResult := do
  match ← choice.refusal now state startedAt with
  | some refusal =>
    pure {
      choice := choice.id, success := false, error := some refusal.error, unmet := refusal.unmet
      timestamp := Timestamp.text now }
  | none =>
    pure {
      choice := choice.id, success := true, target := choice.target, effects := choice.effects
      consequences := choice.effects.preview, timestamp := Timestamp.text now }

end Choice

end InteractiveFiction
