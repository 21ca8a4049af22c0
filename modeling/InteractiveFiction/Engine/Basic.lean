import InteractiveFiction.Cast
import InteractiveFiction.Engine.Config
import InteractiveFiction.Repository
import InteractiveFiction.Save
import InteractiveFiction.Story.Presentation

/-!
The engine: one play-through of a story, from its start to its end.

* `EngineStatus`: where an engine stands in its life.
* `Engine`: the game, the scene that is shown, the timers that run, and what was announced.
* `World`: what engines share: the time, the identities issued and the saved games.
* `Turn`: a computation on an engine in its world; what it did before it failed stays done.
-/

set_option autoImplicit false

namespace InteractiveFiction

inductive EngineStatus where
  | uninitialized | initialized | running | paused | ended
deriving DecidableEq, Repr

namespace EngineStatus

def label : EngineStatus → String
  | .uninitialized => "uninitialized"
  | .initialized => "initialized"
  | .running => "running"
  | .paused => "paused"
  | .ended => "ended"

end EngineStatus

/-- What happens when a timer is due: a unit of playtime, a save, or the delayed effects of the
scene that is shown. -/
inductive TimerKind where
  | playtime | autosave | delayedEffects
deriving DecidableEq, Repr

structure Timer where
  kind : TimerKind
  /-- When it is due, in seconds that have passed. -/
  due : Float
deriving DecidableEq

structure Engine where
  content : Repository
  config : EngineConfig := {}
  audio : AudioSink := {}
  status : EngineStatus := .uninitialized
  state : Option GameState := none
  scene : Option PresentedScene := none
  presentedAt : Option Instant := none
  cast : Cast := {}
  timers : List Timer := []
  /-- The effects of the scene that is shown, while they wait. -/
  delayed : Option DelayedEffect := none
  played : List AudioCall := []
  published : List EventRecord := []

structure World where
  now : Instant
  /-- Seconds that have passed for timers; setting the clock does not count. -/
  elapsed : Float := 0.0
  /-- How many identities were issued. -/
  issued : Nat := 0
  store : SaveStore := {}

structure Sitting where
  world : World
  engine : Engine

abbrev Turn := ExceptT Fault (StateM Sitting)

namespace Turn

def ofResult {α : Type} (result : Result α) : Turn α :=
  match result with
  | .ok value => pure value
  | .error fault => throw fault

instance : MonadLift Result Turn := ⟨ofResult⟩

def engine : Turn Engine := do
  pure (← get).engine

def world : Turn World := do
  pure (← get).world

def now : Turn Instant := do
  pure (← world).now

def modifyEngine (change : Engine → Engine) : Turn Unit :=
  modify fun sitting => { sitting with engine := change sitting.engine }

def modifyWorld (change : World → World) : Turn Unit :=
  modify fun sitting => { sitting with world := change sitting.world }

/-- The state of the game, where there must be one. -/
def state : Turn GameState := do
  match (← engine).state with
  | some state => pure state
  | none => throw (.noField "NoneType" "state")

def modifyState (change : GameState → GameState) : Turn Unit :=
  modifyEngine fun engine => { engine with state := engine.state.map change }

def publish (event : Event) : Turn Unit := do
  let record : EventRecord := ⟨event, ← now⟩
  modifyEngine fun engine => { engine with published := engine.published ++ [record] }

/-- Makes a call to the sink; a refusal changes nothing else. -/
def play (call : AudioCall) : Turn Unit :=
  modifyEngine fun engine => { engine with played := engine.played ++ [call] }

/-- Runs an action on the stage that the engine makes for the game. -/
def onStage {α : Type} (action : Action α) : Turn α := do
  let { world, engine } ← get
  let stage : Stage := {
    now := world.now, state := (← state), audio := some engine.audio
    played := engine.played, published := engine.published }
  let (result, stage) := (action.run).run stage
  modifyEngine fun engine =>
    { engine with state := some stage.state, played := stage.played, published := stage.published }
  ofResult result

/-! ## Faults -/

def report (operation : String) (fault : Fault) : Turn Unit :=
  publish (.error operation fault.family fault.message)

/-- Announces the faults of the rules that an operation fails with. -/
def reporting {α : Type} (operation : String) (turn : Turn α) : Turn α :=
  tryCatch turn fun fault => do
    if fault.isOfGame then report operation fault
    throw fault

def reject {α : Type} (operation : String) (fault : Fault) : Turn α := do
  report operation fault
  throw fault

def requireStatus (status : EngineStatus) (operation : String) : Turn Unit := do
  let actual := (← engine).status
  if actual ≠ status then
    throw (.lifecycle (.wrongStatus operation status.label actual.label))

def requireInitialized (operation : String) : Turn Unit := do
  if (← engine).status = .uninitialized then
    reject operation (.lifecycle (.notInitialized operation))

def requireGame (operation : String) : Turn Unit := do
  if (← engine).state.isNone then reject operation (.lifecycle (.noActiveGame operation))

end Turn

end InteractiveFiction
