import InteractiveFiction.Condition.Validation
import InteractiveFiction.Story

/-!
The check of a story: whether its parts fit together.

* `Story.check`: errors and warnings in the order in which the story's records are written, and
  the unknown keys of its conditions.
* `Story.ensureValid`: the check as a gate; unknown keys come first.

A scene counts as reachable when it is the first one, the target of a choice, or the target of a
teleport that no delay holds back.
-/

set_option autoImplicit false

namespace InteractiveFiction

structure StoryCheck where
  errors : List String := []
  warnings : List String := []
  unknown : List ConditionProblem := []
deriving DecidableEq

namespace StoryCheck

def valid (check : StoryCheck) : Bool :=
  check.errors.isEmpty

def append (a b : StoryCheck) : StoryCheck :=
  ⟨a.errors ++ b.errors, a.warnings ++ b.warnings, a.unknown ++ b.unknown⟩

instance : Append StoryCheck := ⟨append⟩

def join (checks : List StoryCheck) : StoryCheck :=
  checks.foldl append {}

def error (message : String) : StoryCheck := { errors := [message] }

def warning (message : String) : StoryCheck := { warnings := [message] }

/-- A check that finds something only when a condition is met. -/
def when (found : Bool) (check : StoryCheck) : StoryCheck :=
  if found then check else {}

def condition (path : String) (d : Document) : StoryCheck :=
  let problems := Condition.problems path d
  { errors := problems.map fun problem => s!"{problem.path}: {problem.message}"
    unknown := problems.filter fun problem => problem.unknownKey.isSome }

end StoryCheck

namespace Story

open StoryCheck

variable (story : Story)

def hasScene (id : Document) : Bool :=
  (story.scene? id).isSome

/-! ## Records -/

def checkTeleport (place : String) (target : Document) : StoryCheck :=
  if !target.isTruthy then error s!"{place} teleport has no targetScene"
  else when (!story.hasScene target)
    (error s!"{place} teleports to unknown scene '{target.display}'")

def checkCustom (place : String) (custom : CustomEffect) : StoryCheck :=
  when (!CustomEffect.types.contains custom.type)
      (error s!"{place} uses unknown custom effect '{custom.type}'") ++
    (if custom.type = "teleport" then story.checkTeleport place (custom.param "targetScene")
      else {})

def checkEffect (place : String) (effect : Effect) : StoryCheck :=
  join (effect.custom.map (story.checkCustom place))

def checkScene (scene : Scene) : StoryCheck :=
  let place := s!"scene '{scene.id.display}'"
  condition (place ++ ".conditions") scene.conditions ++
    story.checkEffect place scene.effects ++
    (match scene.timeEffects with
      | some delayed => story.checkEffect (place ++ ".timeEffects") delayed.effect
      | none => {}) ++
    join (scene.choiceIds.map fun id => when (story.choice? id).isNone
      (error s!"{place} references unknown choice '{id.display}'")) ++
    join (scene.characterIds.map fun id => when (story.character? id).isNone
      (error s!"{place} references unknown character '{id.display}'")) ++
    when scene.choiceIds.isEmpty (warning s!"{place} has no choices")

def checkRequirement (place : String) (index : Nat) (requirement : Requirement) : StoryCheck :=
  match requirement.toCondition with
  | .ok _ => {}
  | .error fault => error s!"{place}.requirements[{index}]: {fault.message}"

/-- Whether some scene offers a choice. -/
def isOffered (choice : Choice) : Bool :=
  story.scenes.any fun scene => scene.choiceIds.contains choice.id

def checkConditional (place : String) (choice : Choice) : StoryCheck :=
  let nested := choice.metadata.getD "conditions" .null
  when (!nested.isTruthy) (warning s!"{place} is conditional but has no metadata conditions") ++
    condition (place ++ ".metadata.conditions") nested

def checkChoice (choice : Choice) : StoryCheck :=
  let place := s!"choice '{choice.id.display}'"
  condition (place ++ ".conditions") choice.conditions ++
    story.checkEffect place choice.effects ++
    when (choice.target.isTruthy && !story.hasScene choice.target)
      (error s!"{place} targets unknown scene '{choice.target.display}'") ++
    join (choice.requirements.mapIdx (checkRequirement place)) ++
    (if choice.type = .conditional then checkConditional place choice else {}) ++
    when (choice.type = .timed && !choice.metadata.has "timeLimit")
      (warning s!"{place} is timed without a timeLimit, defaulting to 30s") ++
    when (!story.isOffered choice) (warning s!"{place} is not offered by any scene")

def checkCharacter (character : Character) : StoryCheck :=
  join (character.dialogue.mapIdx fun index line => when (!line.text.isTruthy)
    (error s!"character '{character.id.display}'.dialogue[{index}] has no text"))

def checkAchievement (achievement : Achievement) : StoryCheck :=
  condition s!"achievement '{achievement.id.display}'.conditions" achievement.conditions

/-! ## Reachable scenes -/

/-- The scenes of the story that a bundle teleports to. -/
def teleportTargets (effect : Effect) : List Document :=
  (effect.custom.filterMap fun custom =>
    if custom.type = "teleport" then some (custom.param "targetScene") else none).filter
    fun target => target.isTruthy && story.hasScene target

def reachable : List Document :=
  story.startingSceneId ::
    (story.scenes.flatMap fun scene => story.teleportTargets scene.effects) ++
    (story.choices.flatMap fun choice =>
      story.teleportTargets choice.effects ++
        if choice.target.isTruthy then [choice.target] else [])

def checkReachable (scene : Scene) : StoryCheck :=
  when (!story.reachable.contains scene.id) (warning s!"scene '{scene.id.display}' is unreachable")

/-! ## The whole story -/

def check : StoryCheck :=
  when (!story.hasScene story.startingSceneId)
      (error s!"Starting scene '{story.startingSceneId.display}' does not exist") ++
    join (story.scenes.map story.checkScene) ++
    join (story.choices.map story.checkChoice) ++
    join (story.characters.map checkCharacter) ++
    join (story.achievements.map checkAchievement) ++
    join (story.scenes.map story.checkReachable) ++
    when story.achievements.isEmpty (warning "No achievements defined") ++
    when (!story.choices.any Choice.endsStory) (warning "No choice ends the story")

/-- The check of a story that passes it.  Unknown keys are refused before any other error. -/
def ensureValid : Result StoryCheck :=
  let found := story.check
  match found.unknown with
  | problem :: _ => throw (.unknownCondition (problem.unknownKey.getD "") problem.path)
  | [] => if found.valid then pure found else throw (.storyInvalid found.errors)

end Story

end InteractiveFiction
