import InteractiveFiction.Engine.Play

/-!
The passing of time: timers that become due are fired one after another, the earliest first, with
the clock showing the moment at which each is due.
-/

set_option autoImplicit false

namespace InteractiveFiction

namespace Engine

/-- The timer that is due first, the one that was set first among equals. -/
def nextTimer? (engine : Engine) : Option Timer :=
  engine.timers.foldl (fun earliest timer =>
    match earliest with
    | some other =>
      if (Number.float timer.due).lt (.float other.due) then some timer else some other
    | none => some timer) none

/-- The timer that is due first, if it is due by a time. -/
def dueTimer? (engine : Engine) (time : Float) : Option Timer :=
  engine.nextTimer?.filter fun timer => (Number.float timer.due).le (.float time)

def dropTimer (engine : Engine) (timer : Timer) : Engine :=
  { engine with timers := engine.timers.erase timer }

end Engine

namespace World

/-- Lets time pass up to a moment of the time line, unless that has passed already. -/
def advanceTo (world : World) (time : Float) : World :=
  if (Number.float world.elapsed).lt (.float time) then
    { world with now := world.now + (time - world.elapsed), elapsed := time }
  else world

def turnClock (world : World) (seconds : Float) : World :=
  { world with now := world.now + seconds }

end World

namespace Turn

/-! ## Firing -/

def countPlaytime : Turn Unit := do
  if (← engine).status = .running then
    modifyState fun state =>
      { state with progress := { state.progress with playtime := state.progress.playtime + 1 } }
  let elapsed := (← world).elapsed
  modifyEngine fun engine => engine.startPlaytime elapsed

def saveByItself : Turn Unit := do
  if (← engine).status = .running then
    let _ ← autosave
  let elapsed := (← world).elapsed
  modifyEngine fun engine => engine.startAutosave elapsed

/-- Applies the delayed effects of the scene, once. -/
def applyDelayed : Turn Unit := do
  let engine ← engine
  match engine.delayed with
  | some delayed =>
    if engine.status = .running then
      modifyEngine fun engine => { engine with delayed := none }
      tryCatch
        (do
          let _ ← onStage delayed.effect.process
          checkAchievements)
        fun fault => do
          if fault.isOfGame then report "scene_time_effects" fault
  | none => pure ()

def fire (timer : Timer) : Turn Unit := do
  modifyEngine fun engine => engine.dropTimer timer
  match timer.kind with
  | .playtime => countPlaytime
  | .autosave => saveByItself
  | .delayedEffects => applyDelayed

/-! ## Passing -/

/-- The earlier part of `pass`: fires at most so many timers. -/
def passWithin (time : Float) : Nat → Turn Unit
  | 0 => pure ()
  | fuel + 1 => do
    match (← engine).dueTimer? time with
    | some timer =>
      modifyWorld fun world => world.advanceTo timer.due
      fire timer
      passWithin time fuel
    | none => pure ()

/-- How often a timer of a period can be due in a time. -/
def periods (seconds period : Float) : Nat :=
  (seconds / period).toUInt64.toNat + 1

def passFuel (engine : Engine) (seconds : Float) : Nat :=
  let interval := (engine.state.bind Engine.autosaveInterval?).getD 1.0
  periods seconds engine.config.playtimeTick + periods seconds interval + 2

/-- Lets time pass; what is due at the very end is fired too. -/
def pass (seconds : Float) : Turn Unit := do
  let time := (← world).elapsed + seconds
  passWithin time (passFuel (← engine) seconds)
  modifyWorld fun world => world.advanceTo time

def settle : Turn Unit := pass 0.0

end Turn

end InteractiveFiction
