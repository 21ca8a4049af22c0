import InteractiveFiction.Service.Report
import InteractiveFiction.Service.Request

/-!
The service: sessions of many players over one set of stories and one store.

* `Service.handle`: answers a request that is made in a session.
* `Service.createSession`, `Service.endSession`, `Service.cleanup`: the life of sessions.
* `Service.pass`: lets time pass for the engines of all sessions.

A fault of the rules is answered with an error; any other fault is one of the service itself.
Listeners of a session are told of its events as they come.
-/

set_option autoImplicit false

namespace InteractiveFiction

/-- Someone who listens to the events of a session. -/
structure Listener where
  session : String
  heard : List EventRecord := []
  /-- Whether the session was ended while they listened. -/
  closed : Bool := false

structure Service where
  world : World
  content : Repository
  config : EngineConfig := {}
  sessions : List Session := []
  listener : Option Listener := none

abbrev Answer := Except ServiceError Document

abbrev Serving := ExceptT Fault (StateM Service)

namespace Service

/-! ## Sessions -/

def session? (service : Service) (id : String) : Option Session :=
  service.sessions.find? fun session => session.id == id

def putSession (service : Service) (session : Session) : Service :=
  { service with sessions := service.sessions.map fun s =>
      if s.id == session.id then session else s }

/-- Tells a listener what the engine of a session announced. -/
def tell (service : Service) (session : Session) : Service :=
  { service with listener := service.listener.map fun (listener : Listener) =>
      if listener.session == session.id && !listener.closed then
        { listener with heard := listener.heard ++ session.engine.published }
      else listener }

/-- Puts a session back after its engine did something. -/
def settleSession (service : Service) (session : Session) : Service :=
  (service.tell session).putSession session.collect

def createSession (player : String) : Serving Document := do
  modify fun service =>
    { service with world := { service.world with issued := service.world.issued + 1 } }
  let service ← get
  let now := service.world.now
  let session : Session := {
    id := Identity.uuid service.world.issued
    engine := { content := service.content, config := service.config, status := .initialized }
    createdAt := now, playerName := player, lastActivity := now }
  modify fun service => { service with sessions := service.sessions ++ [session] }
  pure (Report.session session)

/-- Forgets a session; its listener is told nothing more. -/
def endSession (id : String) : Serving Bool := do
  let service ← get
  match service.session? id with
  | some _ =>
    set { service with
      sessions := service.sessions.filter fun session => session.id != id
      listener := service.listener.map fun (listener : Listener) =>
        if listener.session == id then { listener with closed := true } else listener }
    pure true
  | none => pure false

def activeSessions (service : Service) : List String :=
  (service.sessions.filter Session.isActive).map Session.id

/-- Ends the sessions in which nothing was done for too long, and tells how many. -/
def cleanup (seconds : Number) : Serving Nat := do
  let service ← get
  let stale := service.sessions.filter (Session.isStale service.world.now seconds)
  for session in stale do
    let _ ← endSession session.id
  pure stale.length

def shutdown (service : Service) : Service :=
  { service with sessions := [] }

/-! ## Turns -/

def turn {α : Type} (session : Session) (turn : Turn α) : Serving (Result α × Session) := do
  let service ← get
  let (result, sitting) := (turn.run).run { world := service.world, engine := session.engine }
  let session := { session with engine := sitting.engine }
  set ({ service with world := sitting.world }.settleSession session)
  pure (result, session.collect)

/-- Answers with what a turn led to, or with the fault it failed with. -/
def answerTurn {α : Type} (session : Session) (action : Turn α)
    (report : Session → α → Document) : Serving Answer := do
  let (result, session) ← turn session action
  match result with
  | .ok value => pure (.ok (report session value))
  | .error fault =>
    if fault.isOfGame then pure (.error (.ofFault fault)) else throw fault

/-- Answers in a session, if there is one of that id. -/
def inSession (id : String) (answer : Session → Serving Answer) : Serving Answer := do
  match (← get).session? id with
  | some session => answer session
  | none => pure (.error (.sessionNotFound id))

/-- The session, with the time of its last activity set. -/
def touched (session : Session) : Serving Session := do
  let session := session.touch (← get).world.now
  modify fun service => service.putSession session
  pure session

/-! ## Requests -/

def startGame (session : Session) (request : StartRequest) : Serving Answer := do
  match (← get).content.story request.story with
  | .error _ => pure (.error (.storyNotFound request.story))
  | .ok _ =>
    let session ← touched session
    let player := request.player.getD ""
    let session :=
      if player.isEmpty then session else { session with playerName := .text player }
    modify fun service => service.putSession session
    answerTurn session (Turn.startNewGame request.story session.playerName) Report.scene

def handle (id : String) : Request → Serving Answer
  | .createSession player => do pure (.ok (← createSession player))
  | .startGame request => inSession id fun session => startGame session request
  | .loadGame slot => inSession id fun session => do
    answerTurn (← touched session) (Turn.loadGame slot) Report.scene
  | .makeChoice choice => inSession id fun session => do
    answerTurn (← touched session) (Turn.makeChoice choice) (Report.outcome · choice)
  | .useItem item => inSession id fun session => do
    answerTurn (← touched session) (Turn.useItem item) (Report.itemUse · item)
  | .interact request => inSession id fun session => do
    answerTurn (← touched session) (Turn.interact request.character request.kind.label)
      (Report.interaction · request.character)
  | .saveGame name => inSession id fun session => do
    answerTurn (← touched session) (Turn.manualSave name) Report.saved
  | .updateSettings changes => inSession id fun session =>
    answerTurn session (Turn.updateSettings changes) Report.settings

def pause (id : String) : Serving Answer :=
  inSession id fun session => do
    answerTurn (← touched session) Turn.pauseGame fun session _ => Report.session session

def resume (id : String) : Serving Answer :=
  inSession id fun session => do
    answerTurn (← touched session) Turn.resumeGame fun session _ => Report.session session

/-! ## Queries -/

def stories (service : Service) : Document :=
  Report.counted "stories" (service.content.stories.map Report.story)

def getSession (id : String) : Serving Answer :=
  inSession id fun session => pure (.ok (Report.session session))

def gameState (id : String) : Serving Answer :=
  inSession id fun session =>
    match session.engine.state with
    | some state => pure (.ok (Report.game session state))
    | none => pure (.error .noGame)

/-- Hands out the events that a session kept. -/
def events (id : String) : Serving Answer :=
  inSession id fun session => do
    let (records, session) := session.drain
    modify fun service => service.putSession session
    pure (.ok (Report.events session records))

def saves : Serving Answer := do
  match (← get).world.store.list with
  | .ok slots => pure (.ok (Report.counted "slots" (slots.map Report.slot)))
  | .error fault =>
    if fault.isOfSaving then pure (.error (.ofFault fault)) else throw fault

/-! ## Time -/

/-- The session whose engine has the timer that is due first, if that is due by a time. -/
def dueSession? (service : Service) (time : Float) : Option (Session × Timer) :=
  service.sessions.foldl (fun earliest session =>
    match session.engine.dueTimer? time, earliest with
    | some timer, some (other, first) =>
      if (Number.float timer.due).lt (.float first.due) then some (session, timer)
      else some (other, first)
    | some timer, none => some (session, timer)
    | none, earliest => earliest) none

def passWithin (time : Float) : Nat → Serving Unit
  | 0 => pure ()
  | fuel + 1 => do
    match (← get).dueSession? time with
    | some (session, timer) =>
      modify fun service => { service with world := service.world.advanceTo timer.due }
      let _ ← turn session (Turn.fire timer)
      passWithin time fuel
    | none => pure ()

def pass (seconds : Float) : Serving Unit := do
  let service ← get
  let time := service.world.elapsed + seconds
  let firings := service.sessions.map fun session => Turn.passFuel session.engine seconds
  let fuel := firings.foldr (· + ·) 0
  passWithin time fuel
  modify fun service => { service with world := service.world.advanceTo time }

end Service

end InteractiveFiction
