import InteractiveFiction.Stage

/-!
The expiry of curses and blessings.  Those whose time has run out are found first, then each is
taken away with its flag and announced.
-/

set_option autoImplicit false

namespace InteractiveFiction

namespace GameState

def lapsed (state : GameState) (now : Instant) : List TimedEffect :=
  state.timedEffects.values.filter fun effect => effect.isExpired now

end GameState

namespace TimedEffect

/-- Takes an effect away with its flag; it must be held under its own key. -/
def lapse (effect : TimedEffect) : Action Unit := do
  let state ← Action.state
  if state.timedEffects.contains effect.key then
    Action.setState { state with
      timedEffects := state.timedEffects.erase effect.key
      flags := state.flags.erase effect.key }
  else throw (.missingKey effect.key)

def lapseEvent (effect : TimedEffect) : Event :=
  .timedEffectExpired effect.key effect.kind effect.type

/-- Takes away what has run out, where nobody answers events with bundles. -/
def expire (now : Instant) : Action (List TimedEffect) := do
  let lapsed := (← Action.state).lapsed now
  for effect in lapsed do
    effect.lapse
    Action.publish effect.lapseEvent
  pure lapsed

end TimedEffect

end InteractiveFiction
