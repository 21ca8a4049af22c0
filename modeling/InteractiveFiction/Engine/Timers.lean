import InteractiveFiction.Engine.Basic

/-!
The timers of an engine: when they start and stop.

While a game runs, one timer counts playtime and one saves, if the game is to be saved by itself.
A third one waits for the delayed effects of the scene; it is there once, however often it is
armed.
-/

set_option autoImplicit false

namespace InteractiveFiction

namespace Engine

def isArmed (engine : Engine) : Bool :=
  engine.timers.any fun timer => timer.kind = .delayedEffects

/-- The seconds between two saves, if the setting is a number, and not an integer beyond every
double. -/
def autosaveInterval? (state : GameState) : Option Float :=
  state.settings.autosaveInterval.number?.bind fun number => number.toFloat?.toOption

def withTimer (engine : Engine) (kind : TimerKind) (due : Float) : Engine :=
  { engine with timers := engine.timers ++ [⟨kind, due⟩] }

/-- Sets the timer of the delayed effects, if some wait and it is not set. -/
def arm (engine : Engine) (elapsed : Float) : Engine :=
  match engine.delayed with
  | some delayed =>
    if engine.isArmed then engine
    else engine.withTimer .delayedEffects (elapsed + delayed.delay)
  | none => engine

def startPlaytime (engine : Engine) (elapsed : Float) : Engine :=
  engine.withTimer .playtime (elapsed + engine.config.playtimeTick)

def startAutosave (engine : Engine) (elapsed : Float) : Engine :=
  match engine.state.bind autosaveInterval? with
  | some interval => engine.withTimer .autosave (elapsed + interval)
  | none => engine

def savesItself (engine : Engine) : Bool :=
  engine.state.any fun state => state.settings.autosave.isTruthy

def startTimers (engine : Engine) (elapsed : Float) : Engine :=
  let engine := engine.startPlaytime elapsed
  let engine := if engine.savesItself then engine.startAutosave elapsed else engine
  engine.arm elapsed

def stopTimers (engine : Engine) : Engine :=
  { engine with timers := [] }

/-- Gives up the delayed effects of the scene that is left. -/
def forgetDelayed (engine : Engine) : Engine :=
  { engine with
    timers := engine.timers.filter fun timer => timer.kind ≠ .delayedEffects
    delayed := none }

/-- What the engine knows of the scene and its characters is gone. -/
def resetScene (engine : Engine) : Engine :=
  { engine with cast := {}, scene := none, presentedAt := none }

end Engine

namespace Turn

def startTimers : Turn Unit := do
  let elapsed := (← world).elapsed
  modifyEngine fun engine => engine.startTimers elapsed

def stopTimers : Turn Unit :=
  modifyEngine Engine.stopTimers

end Turn

end InteractiveFiction
