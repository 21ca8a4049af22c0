import InteractiveFiction.Condition
import InteractiveFiction.Story
import InteractiveFiction.Template

/-!
Scenes as a player sees them: rendered text, and the choices whose conditions hold.

`Scene.present` asks for the scene's own conditions first; `Scene.render` does not.
-/

set_option autoImplicit false

namespace InteractiveFiction

structure PresentedChoice where
  choice : Choice
  text : String
deriving DecidableEq

namespace PresentedChoice

def toDocument (presented : PresentedChoice) : Document :=
  .object [("id", presented.choice.id), ("text", .text presented.text),
    ("type", .text presented.choice.type.name), ("targetSceneId", presented.choice.target),
    ("requirements", .list (presented.choice.requirements.map Requirement.describe))]

end PresentedChoice

structure PresentedScene where
  scene : Scene
  content : String
  choices : List PresentedChoice
  metadata : Fields
deriving DecidableEq

namespace PresentedScene

def toDocument (presented : PresentedScene) : Document :=
  .object [("id", presented.scene.id), ("title", presented.scene.title),
    ("content", .text presented.content),
    ("choices", .list (presented.choices.map PresentedChoice.toDocument)),
    ("backgroundMusic", presented.scene.backgroundMusic),
    ("characterIds", .list presented.scene.characterIds),
    ("metadata", .object presented.metadata)]

end PresentedScene

/-! ## Presenting -/

namespace Choice

def isVisible (now : Instant) (state : GameState) (choice : Choice) : Result Bool :=
  Condition.evaluate (Timestamp.hour now) state choice.conditions

def present (state : GameState) (choice : Choice) : Result PresentedChoice := do
  pure ⟨choice, ← Template.writeChoice state (← Template.authored choice.text)⟩

end Choice

namespace Scene

def isAccessible (now : Instant) (state : GameState) (scene : Scene) : Result Bool :=
  Condition.evaluate (Timestamp.hour now) state scene.conditions

def presentChoices (now : Instant) (state : GameState) :
    List Choice → Result (List PresentedChoice)
  | [] => pure []
  | choice :: choices => do
    if ← choice.isVisible now state then
      let presented ← choice.present state
      pure (presented :: (← presentChoices now state choices))
    else presentChoices now state choices

def render (now : Instant) (state : GameState) (choices : List Choice) (scene : Scene) :
    Result PresentedScene := do
  let content ← Template.write state (← Template.authored scene.content)
  let visible ← presentChoices now state choices
  let metadata := scene.metadata
    |>.put "processedAt" (Timestamp.text now)
    |>.put "availableChoices" (.int visible.length)
    |>.put "contentLength" (.int content.length)
  pure { scene, content, choices := visible, metadata }

def present (now : Instant) (state : GameState) (choices : List Choice) (scene : Scene) :
    Result PresentedScene := do
  if ← scene.isAccessible now state then scene.render now state choices
  else throw (.sceneInaccessible scene.id)

end Scene

end InteractiveFiction
