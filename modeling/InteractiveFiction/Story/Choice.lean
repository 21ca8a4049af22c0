import InteractiveFiction.Effect.Bundle
import InteractiveFiction.Story.Requirement

/-!
Choices: the ways a player may leave a scene.

A choice without a target ends the story.  A conditional choice has conditions of its own in its
metadata; a timed choice must be made in time.
-/

set_option autoImplicit false

namespace InteractiveFiction

/-- Fails on a record that is not an object, or that lacks an id. -/
def requireId (record : String) (d : Document) : Result Document :=
  let id := d.get "id"
  if id.isTruthy then pure id else throw (.content (.recordLacks record "id" d))

/-- A condition as it is kept: null when it is absent or empty. -/
def keptCondition (d : Document) : Document :=
  if d.isTruthy then d else .null

inductive ChoiceType where
  | plain | conditional | timed
deriving DecidableEq, Repr

namespace ChoiceType

def name : ChoiceType → String
  | .plain => "plain"
  | .conditional => "conditional"
  | .timed => "timed"

def ofDocument? : Document → Option ChoiceType
  | .text "plain" => some .plain
  | .text "conditional" => some .conditional
  | .text "timed" => some .timed
  | _ => none

end ChoiceType

structure Choice where
  id : Document
  text : Document := ""
  target : Document := .null
  conditions : Document := .null
  effects : Effect := {}
  requirements : List Requirement := []
  type : ChoiceType := .plain
  isAvailable : Bool := true
  metadata : Fields := []
deriving DecidableEq

namespace Choice

def endsStory (choice : Choice) : Bool :=
  !choice.target.isTruthy

/-- Seconds a player has for a timed choice, thirty unless the author says otherwise. -/
def timeLimit (choice : Choice) : Result Float :=
  (choice.metadata.getD "timeLimit" (choice.metadata.getD "time_limit" (.int 30))).toFloat

def ofDocument (d : Document) : Issue Choice := do
  let id ← requireId "choice" d
  let type ←
    match ChoiceType.ofDocument? (d.getD "type" "plain") with
    | some type => pure type
    | none => throw (.content (.unknownChoiceType id (d.get "type")))
  let effects ← Effect.ofDocument (d.get "effects")
  let requirements ←
    (← (Document.orElse (d.field? "requirements") (.list [])).toItems).mapM fun r =>
      Requirement.ofDocument r
  let metadata ← (Document.orElse (d.field? "metadata") (.object [])).toFields
  pure {
    id
    text := d.getD "text" ""
    target := d.getD "targetSceneId" (d.get "target_scene_id")
    conditions := keptCondition (d.get "conditions")
    effects, requirements, type
    isAvailable := (d.getD "isAvailable" (d.getD "is_available" (.bool true))).isTruthy
    metadata }

def toDocument (choice : Choice) : Document :=
  .object [("id", choice.id), ("text", choice.text), ("targetSceneId", choice.target),
    ("conditions", choice.conditions), ("effects", choice.effects.toDocument),
    ("requirements", .list (choice.requirements.map Requirement.toDocument)),
    ("type", .text choice.type.name), ("isAvailable", .bool choice.isAvailable),
    ("metadata", .object choice.metadata)]

end Choice

end InteractiveFiction
