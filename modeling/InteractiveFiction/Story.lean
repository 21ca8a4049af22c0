import InteractiveFiction.Story.Character
import InteractiveFiction.Story.Scene

/-!
Stories: scenes, choices, characters and achievements, each under an id of its own.

`Story.ofDocument` reads a story record by record and fails at the first malformed one; whether
its parts fit together is asked by the story check.
-/

set_option autoImplicit false

namespace InteractiveFiction

structure Achievement where
  id : Document
  name : Document
  description : Document := ""
  conditions : Document := .null
  points : Int := 0
  sound : Document := "achievement-unlock"
deriving DecidableEq

namespace Achievement

def ofDocument (d : Document) : Result Achievement := do
  let id ← requireId "achievement" d
  let points ← (d.getD "points" (.int 0)).toInt
  pure {
    id
    name := d.getD "name" id
    description := d.getD "description" ""
    conditions := keptCondition (d.get "conditions")
    points
    sound := d.getD "sound" "achievement-unlock" }

def toDocument (achievement : Achievement) : Document :=
  .object [("id", achievement.id), ("name", achievement.name),
    ("description", achievement.description), ("conditions", achievement.conditions),
    ("points", .int achievement.points), ("sound", achievement.sound)]

end Achievement

structure Story where
  id : Document
  title : Document
  description : Document := ""
  version : String := "1.0"
  startingSceneId : Document
  scenes : List Scene
  choices : List Choice := []
  characters : List Character := []
  achievements : List Achievement := []
deriving DecidableEq

namespace Story

/-! ## Records by id -/

def scene? (story : Story) (id : Document) : Option Scene :=
  story.scenes.find? fun scene => scene.id == id

def choice? (story : Story) (id : Document) : Option Choice :=
  story.choices.find? fun choice => choice.id == id

def character? (story : Story) (id : Document) : Option Character :=
  story.characters.find? fun character => character.id == id

/-! ## Reading and writing -/

/-- Fails at the first id that cannot be a key, or that an earlier record has. -/
def checkDistinct (record : String) (ids : List Document) : Result Unit :=
  go [] ids
where
  go (seen : List Document) : List Document → Result Unit
    | [] => pure ()
    | id :: ids => do
      id.checkKey
      if seen.any id.equals then throw (.content (.duplicateId record id))
      else go (id :: seen) ids

def ofDocument (d : Document) : Issue Story := do
  let .object _ := d | throw (.content .storyNotObject)
  let id ← requireId "story" d
  let scenes ← (← listOf d "scenes").mapM Scene.ofDocument
  let first :: _ := scenes | throw (.content (.storyWithoutScenes id))
  checkDistinct "scene" (scenes.map Scene.id)
  let choices ← (← listOf d "choices").mapM Choice.ofDocument
  checkDistinct "choice" (choices.map Choice.id)
  let characters ← (← listOf d "characters").mapM fun c => Character.ofDocument c
  checkDistinct "character" (characters.map Character.id)
  let achievements ← (← listOf d "achievements").mapM fun a => Achievement.ofDocument a
  pure {
    id
    title := d.getD "title" id
    description := d.getD "description" ""
    version := (d.getD "version" "1.0").display
    startingSceneId := Document.orElse (d.field? "startingSceneId") first.id
    scenes, choices, characters, achievements }

def toDocument (story : Story) : Document :=
  .object [("id", story.id), ("title", story.title), ("description", story.description),
    ("version", .text story.version), ("startingSceneId", story.startingSceneId),
    ("scenes", .list (story.scenes.map Scene.toDocument)),
    ("choices", .list (story.choices.map Choice.toDocument)),
    ("characters", .list (story.characters.map Character.toDocument)),
    ("achievements", .list (story.achievements.map Achievement.toDocument))]

end Story

end InteractiveFiction
