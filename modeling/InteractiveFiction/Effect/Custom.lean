import InteractiveFiction.Effect.Bundle
import InteractiveFiction.Effect.Outcome
import InteractiveFiction.Stage

/-!
Custom effects: teleports, transformations, summonings, curses and blessings.

A custom effect that fails is reported as a failed outcome, and what comes after it still applies.
-/

set_option autoImplicit false

namespace InteractiveFiction

namespace CustomEffect

def demand (custom : CustomEffect) (key : String) : Result Document :=
  let value := custom.param key
  if value.isTruthy then pure value else throw (.effect custom.type s!"missing {key}")

def setFlag (key : String) (value : Document) : Action Unit := do
  let flags ← (← Action.state).flags.set (.text key) value
  Action.modifyState fun state => { state with flags }

def outcome (description : String) (metadata : Fields) : Action Outcome := do
  pure { type := "custom", description, metadata, timestamp := Timestamp.text (← Action.now) }

def teleport (custom : CustomEffect) : Action Outcome := do
  let target ← custom.demand "targetScene"
  Action.publish (.teleport target)
  outcome s!"Teleported to {← target.written}"
    [("customType", "teleport"), ("targetScene", target)]

def transform (custom : CustomEffect) : Action Outcome := do
  let form ← custom.demand "form"
  let old := (← Action.state).flags.value "transformed_form"
  setFlag "transformed_form" form
  let outcome ← outcome s!"Transformed into {← form.written}" [("customType", "transform")]
  pure { outcome with oldValue := old, newValue := form }

def summon (custom : CustomEffect) : Action Outcome := do
  let creature ← custom.demand "creature"
  setFlag "summoned_creature" creature
  outcome s!"Summoned {← creature.written}" [("customType", "summon"), ("creature", creature)]

/-- Seconds that a curse or a blessing lasts when its author does not say. -/
def defaultDuration : Float := 3600.0

/-- The effect that a curse or a blessing leaves behind, from now on. -/
def timedEffect (custom : CustomEffect) (now : Instant) : Result TimedEffect := do
  let type ← (Document.orElse (some (custom.param (custom.type ++ "Type"))) "unknown").written
  let duration ←
    (Document.orElse (some (custom.param "duration")) (.float defaultDuration)).toFloat
  let effects ← (Document.orElse (some (custom.param "effects")) (.object [])).toFields
  if (Number.float duration).le 0 then
    throw (.effect custom.type s!"duration must be positive, got {(Number.float duration).text}")
  pure {
    kind := .text custom.type, type := .text type, startTime := now, duration
    effects := .object effects }

def cast (custom : CustomEffect) (verb : String) : Action Outcome := do
  let timed ← custom.timedEffect (← Action.now)
  Action.modifyState fun state =>
    { state with timedEffects := state.timedEffects.insert timed.key timed }
  setFlag timed.key (.bool true)
  outcome s!"{verb} with {timed.type.display}"
    [("customType", .text custom.type), ("key", .text timed.key),
      ("expiresAt", .float timed.expiresAt)]

def act (custom : CustomEffect) : Action Outcome :=
  match custom.type with
  | "teleport" => custom.teleport
  | "transform" => custom.transform
  | "summon" => custom.summon
  | "curse" => custom.cast "Cursed"
  | "blessing" => custom.cast "Blessed"
  | type => throw (.effect type
      ("unknown custom effect (expected one of " ++ ", ".intercalate types ++ ")"))

/-- Applies a custom effect; a fault is an outcome like any other. -/
def apply (custom : CustomEffect) : Action Outcome :=
  tryCatch custom.act fun fault => do
    pure {
      type := "custom", success := false, description := s!"Custom effect {custom.type} failed"
      metadata := [("customType", .text custom.type)], error := some fault.message
      timestamp := Timestamp.text (← Action.now) }

end CustomEffect

end InteractiveFiction
