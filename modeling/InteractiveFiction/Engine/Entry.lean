import InteractiveFiction.Effect.Application
import InteractiveFiction.Effect.Expiry
import InteractiveFiction.Engine.Timers

/-!
Entering scenes, and what depends on where the player has been: progress and achievements.
-/

set_option autoImplicit false

namespace InteractiveFiction

namespace Turn

/-! ## Progress and achievements -/

/-- Percent of the scenes that were visited, a half rounded up. -/
def percent (visited total : Nat) : Int :=
  if total = 0 then 0
  else ((Binary.ofFloat (Rounding.nearest false visited total * 100.0 + 0.5)).floor?).getD 0

/-- The ids of the scenes that were visited, each once. -/
def visitedOnce (state : GameState) : List Document :=
  state.progress.scenesVisited.eraseDupsBy Document.sameKey

/-- How many different scenes were visited; their ids must be values that can be keys. -/
def visitedCount (state : GameState) : Result Nat := do
  state.progress.scenesVisited.forM Document.checkKey
  pure (visitedOnce state).length

def updateProgress : Turn Unit := do
  let state ← state
  let total ← (← engine).content.sceneCount state.storyId
  let progress := percent (← visitedCount state) total
  if progress ≠ state.progress.storyProgress then
    modifyState fun state =>
      { state with progress := { state.progress with storyProgress := progress } }
    publish (.progressUpdated progress)

def unlock (achievement : Achievement) : Turn Unit := do
  modifyState fun state =>
    { state with progress := { state.progress with
        achievementsUnlocked := state.progress.achievementsUnlocked ++ [achievement.id] } }
  publish (.achievementUnlocked achievement.id achievement.name achievement.points)
  if (← state).settings.soundEnabled.isTruthy then
    play (.playSound achievement.sound .null false)

/-- Unlocks each achievement that is still locked and whose conditions hold by now. -/
def checkAchievements : Turn Unit := do
  let achievements ← (← engine).content.achievements (← state).storyId
  for achievement in achievements do
    let state ← state
    if !state.hasAchievement achievement.id then
      if ← Condition.evaluate (Timestamp.hour (← now)) state achievement.conditions then
        unlock achievement

/-! ## Scenes -/

structure EntryMode where
  applyEffects : Bool := true
  recordVisit : Bool := true
  checkAccess : Bool := true
deriving DecidableEq

/-- The first scene of a game counts as visited when the game is made. -/
def EntryMode.start : EntryMode := { recordVisit := false }

/-- A scene of a saved game is shown again as it was. -/
def EntryMode.resume : EntryMode :=
  { applyEffects := false, recordVisit := false, checkAccess := false }

/-- Shows a scene: its characters, its music, its text and the choices that are visible. -/
def showScene (scene : Scene) : Turn PresentedScene := do
  let content := (← engine).content
  let characters ← content.characters (← state).storyId scene.id
  modifyEngine fun engine => { engine with cast := engine.cast.enter characters }
  if scene.backgroundMusic.isTruthy && (← state).settings.musicEnabled.isTruthy then
    play (.playMusic scene.backgroundMusic .null)
  let state ← state
  let now ← now
  let choices ← content.choices state.storyId scene.choiceIds
  let presented ← scene.render now state choices
  modifyEngine fun engine => { engine with scene := some presented, presentedAt := some now }
  pure presented

/-- The scene of an id, if it may be entered now. -/
def findScene (id : Document) (mode : EntryMode) : Turn Scene := do
  let state ← state
  let scene ← (← engine).content.scene state.storyId id
  if mode.checkAccess then
    if !(← scene.isAccessible (← now) state) then throw (.sceneInaccessible id)
  pure scene

/-- Enters a scene.  What has run out is taken away first; the effects of the scene apply before
its text is rendered. -/
def enterScene (id : Document) (mode : EntryMode) : Turn PresentedScene := do
  let _ ← onStage (TimedEffect.expire (← now))
  let scene ← findScene id mode
  modifyEngine Engine.forgetDelayed
  modifyState fun state => { state with currentSceneId := id }
  if mode.recordVisit then
    modifyState fun state =>
      { state with progress := { state.progress with
          scenesVisited := state.progress.scenesVisited ++ [id] } }
  if mode.applyEffects && !scene.effects.isEmpty then
    let _ ← onStage scene.effects.process
  let presented ← showScene scene
  updateProgress
  checkAchievements
  publish (.sceneChanged id presented.toDocument)
  if mode.applyEffects && scene.timeEffects.isSome then
    let elapsed := (← world).elapsed
    modifyEngine fun engine => { engine with delayed := scene.timeEffects }.arm elapsed
  pure presented

end Turn

end InteractiveFiction
