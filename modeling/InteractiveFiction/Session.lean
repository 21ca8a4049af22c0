import InteractiveFiction.Engine.Passage

/-!
Sessions: engines that belong to players, and what their players have not heard of yet.

A session keeps the events of its engine until they are asked for, the last ones if there are many.
-/

set_option autoImplicit false

namespace InteractiveFiction

structure Session where
  id : String
  engine : Engine
  createdAt : Instant
  playerName : Document := "Player"
  events : List EventRecord := []
  lastActivity : Instant

namespace Session

def historyLimit : Nat := 200

/-- Keeps an event, and lets go of the oldest one when there are too many. -/
def record (session : Session) (event : EventRecord) : Session :=
  let events := session.events ++ [event]
  { session with events := events.drop (events.length - historyLimit) }

/-- The events that were kept, which are now forgotten. -/
def drain (session : Session) : List EventRecord × Session :=
  (session.events, { session with events := [] })

def collect (session : Session) : Session :=
  let session := session.engine.published.foldl record session
  { session with engine := { session.engine with published := [] } }

def touch (session : Session) (now : Instant) : Session :=
  { session with lastActivity := now }

/-- Whether the session has an engine that plays or can play. -/
def isActive (session : Session) : Bool :=
  session.engine.status = .initialized || session.engine.status = .running ||
    session.engine.status = .paused

/-- Whether nothing was done for longer than a number of seconds; a running game is never stale. -/
def isStale (now : Instant) (seconds : Number) (session : Session) : Bool :=
  seconds.lt (.float (now - session.lastActivity)) && session.engine.status ≠ .running

end Session

end InteractiveFiction
