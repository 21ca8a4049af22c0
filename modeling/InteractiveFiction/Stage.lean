import InteractiveFiction.Event
import InteractiveFiction.State

/-!
The stage: a state of a game together with what rules need around it.

* `Stage`: the state, the clock, the audio sink, the events published and the cues played.
* `Action`: a computation on a stage that may fail; what it did before it failed stays done.
-/

set_option autoImplicit false

namespace InteractiveFiction

/-! ## Audio -/

inductive AudioCall where
  | playSound (name volume : Document) (loop : Bool)
  | playMusic (name volume : Document)
  | pauseAll
  | resumeAll
  | stopAll
deriving DecidableEq

/-- Something that plays cues, and may refuse any of them. -/
structure AudioSink where
  /-- Why the call of a number is refused, counted from zero; nothing when it is not. -/
  complaint : Nat → Option String := fun _ => none

/-! ## The stage -/

structure Stage where
  now : Instant
  state : GameState
  audio : Option AudioSink := none
  played : List AudioCall := []
  published : List EventRecord := []

abbrev Action := ExceptT Fault (StateM Stage)

namespace Stage

def publish (stage : Stage) (event : Event) : Stage :=
  { stage with published := stage.published ++ [⟨event, stage.now⟩] }

def publishAll (stage : Stage) (events : List Event) : Stage :=
  events.foldl publish stage

/-- Why the next call to the sink is refused. -/
def complaint (stage : Stage) (sink : AudioSink) : Option String :=
  sink.complaint stage.played.length

end Stage

namespace Action

def ofResult {α : Type} (result : Result α) : Action α :=
  match result with
  | .ok value => pure value
  | .error fault => throw fault

instance : MonadLift Result Action := ⟨ofResult⟩

def state : Action GameState := do
  pure (← get).state

def now : Action Instant := do
  pure (← get).now

def setState (state : GameState) : Action Unit :=
  modify fun stage => { stage with state }

def modifyState (change : GameState → GameState) : Action Unit :=
  modify fun stage => { stage with state := change stage.state }

def modifyPlayer (change : Player → Player) : Action Unit :=
  modifyState fun state => { state with player := change state.player }

def publish (event : Event) : Action Unit :=
  modify fun stage => stage.publish event

/-- Makes a call to a sink, and tells why it was refused. -/
def play (sink : AudioSink) (call : AudioCall) : Action (Option String) := do
  let complaint := (← get).complaint sink
  modify fun stage => { stage with played := stage.played ++ [call] }
  pure complaint

end Action

end InteractiveFiction
