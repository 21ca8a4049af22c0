import InteractiveFiction.Engine.Entry
import InteractiveFiction.Engine.Saving

/-!
The life of an engine: it is initialized, starts or loads a game, pauses and resumes it, and ends
or is shut down.
-/

set_option autoImplicit false

namespace InteractiveFiction

namespace Turn

def wake : Turn Unit := do
  if (← engine).status = .uninitialized then
    modifyEngine fun engine => { engine with status := .initialized }

def setRunning : Turn Unit := do
  modifyEngine fun engine => { engine with status := .running }
  startTimers

/-- Issues an identity and makes a fresh game at the first scene of a story. -/
def newGame (story player : Document) : Turn Document := do
  let content := (← engine).content
  let start ← content.startingScene story
  modifyWorld fun world => { world with issued := world.issued + 1 }
  let world ← world
  let state := GameState.starting world.now (Identity.uuid world.issued) story start player
    (← engine).config.settings
  modifyEngine fun engine => { engine with state := some state }.resetScene
  pure start

def startNewGame (story player : Document) : Turn PresentedScene := do
  requireInitialized "start_new_game"
  stopTimers
  let scene ← reporting "start_new_game" do
    enterScene (← newGame story player) .start
  setRunning
  publish (.gameStarted (← state).id story)
  pure scene

/-- Loads a saved game and shows its scene again; the effects of the scene are not repeated. -/
def loadGame (slot : String) : Turn PresentedScene := do
  requireInitialized "load_game"
  stopTimers
  let scene ← reporting "load_game" do
    let world ← world
    let state ← world.store.load world.now slot
    modifyEngine fun engine => { engine with state := some state }.resetScene
    enterScene state.currentSceneId .resume
  setRunning
  publish (.gameLoaded (← state).id slot)
  pure scene

def pauseGame : Turn Unit := do
  if (← engine).status ≠ .paused then
    requireStatus .running "pause_game"
    modifyEngine fun engine => { engine with status := .paused }.stopTimers
    play .pauseAll
    publish .gamePaused

def resumeGame : Turn Unit := do
  if (← engine).status ≠ .running then
    requireStatus .paused "resume_game"
    modifyEngine fun engine => { engine with status := .running }
    startTimers
    play .resumeAll
    publish .gameResumed

/-- Stops everything; the game is gone. -/
def shutdown : Turn Unit := do
  stopTimers
  if (← engine).status = .running then play .pauseAll
  modifyEngine fun engine =>
    { engine with state := none, delayed := none, status := .uninitialized }.resetScene

/-- The name of the save that is made at the end of a story. -/
def finalSaveName : String := "Game Completed"

/-- Announces with how many scenes visited, and with which achievements, the game has ended. -/
def announceEnd : Turn Unit := do
  let state ← state
  let visited ← visitedCount state
  publish (.gameEnded state.id visited state.progress.achievementsUnlocked)

/-- Ends the story: the last achievements are unlocked and the game is saved once more. -/
def endGame : Turn Unit := do
  if (← engine).status ≠ .ended then
    modifyEngine fun engine => { engine with status := .ended }.stopTimers
    checkAchievements
    tryCatch
      (do
        let _ ← save finalSaveName false)
      fun fault => report "end_game" fault
    play .stopAll
    announceEnd

end Turn

end InteractiveFiction
