import InteractiveFiction.Document.Coercion
import InteractiveFiction.Timestamp

/-!
Curses and blessings: effects that lapse when their time has run out.
-/

set_option autoImplicit false

namespace InteractiveFiction

structure TimedEffect where
  kind : Document
  type : Document
  startTime : Instant
  duration : Float
  effects : Document := .object []
deriving DecidableEq

namespace TimedEffect

/-- The name under which the effect is held and flagged. -/
def key (effect : TimedEffect) : String :=
  effect.kind.display ++ "_" ++ effect.type.display

def expiresAt (effect : TimedEffect) : Instant :=
  effect.startTime + effect.duration

def isExpired (effect : TimedEffect) (now : Instant) : Bool :=
  (Number.float effect.expiresAt).le (.float now)

def ofDocument (d : Document) : Result TimedEffect := do
  let kind ← d.require "kind"
  let type ← d.require "type"
  let startTime ← (← d.require "startTime").toFloat
  let duration ← (← d.require "duration").toFloat
  let fields ← d.fields "get"
  pure { kind, type, startTime, duration, effects := fields.getOr "effects" (.object []) }

def toDocument (effect : TimedEffect) : Document :=
  .object [("kind", effect.kind), ("type", effect.type), ("startTime", .float effect.startTime),
    ("duration", .float effect.duration), ("effects", effect.effects)]

end TimedEffect

end InteractiveFiction
