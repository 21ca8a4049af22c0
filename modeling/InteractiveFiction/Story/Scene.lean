import InteractiveFiction.Story.Choice

/-!
Scenes: what a player sees and may do at one point of a story.  A scene may carry a bundle that is
applied some time after it was entered.
-/

set_option autoImplicit false

namespace InteractiveFiction

/-- A bundle that waits; authors write the delay in milliseconds. -/
structure DelayedEffect where
  effect : Effect
  /-- Seconds. -/
  delay : Float
deriving DecidableEq

structure Scene where
  id : Document
  title : Document := ""
  content : Document := ""
  conditions : Document := .null
  effects : Effect := {}
  choiceIds : List Document := []
  characterIds : List Document := []
  backgroundMusic : Document := .null
  metadata : Fields := []
  timeEffects : Option DelayedEffect := none
deriving DecidableEq

namespace Scene

/-- The delay an author wrote, in seconds. -/
def delayOf (scene : Document) (d : Document) : Result Float := do
  let milliseconds ←
    match (Document.orElse (d.field? "delay") (.int 0)).toFloat with
    | .error (.value _) | .error (.mistyped _) =>
      throw (.content (.timeEffectsDelay scene (d.get "delay")))
    | result => result
  let delay := milliseconds / 1000.0
  if (Number.float delay).lt 0 then throw (.content (.timeEffectsNegative scene))
  pure delay

def timeEffectsOf (scene : Document) (d : Document) : Issue (Option DelayedEffect) :=
  if !d.isTruthy then pure none
  else
    match d with
    | .object fields => do
      let delay ← delayOf scene d
      let effect ← Effect.ofDocument (.object (Fields.without fields "delay"))
      pure (some { effect, delay })
    | _ => throw (.content (.timeEffectsNotObject scene))

/-- A list that may be written under two keys. -/
def idsOf (d : Document) (key otherKey : String) : Result (List Document) :=
  (Document.orElse (some (d.getD key (d.getD otherKey (.list [])))) (.list [])).toItems

def ofDocument (d : Document) : Issue Scene := do
  let id ← requireId "scene" d
  let metadata ← (Document.orElse (d.field? "metadata") (.object [])).toFields
  let timeEffects ← timeEffectsOf id (metadata.getD "timeEffects" .null)
  let effects ← Effect.ofDocument (d.get "effects")
  let choiceIds ← idsOf d "choiceIds" "choices"
  let characterIds ← idsOf d "characterIds" "characters"
  pure {
    id
    title := d.getD "title" ""
    content := d.getD "content" ""
    conditions := keptCondition (d.get "conditions")
    effects, choiceIds, characterIds
    backgroundMusic := d.get "backgroundMusic"
    metadata, timeEffects }

def toDocument (scene : Scene) : Document :=
  .object [("id", scene.id), ("title", scene.title), ("content", scene.content),
    ("conditions", scene.conditions), ("effects", scene.effects.toDocument),
    ("choiceIds", .list scene.choiceIds), ("characterIds", .list scene.characterIds),
    ("backgroundMusic", scene.backgroundMusic), ("metadata", .object scene.metadata)]

end Scene

end InteractiveFiction
