import InteractiveFiction.Engine.Lifecycle
import InteractiveFiction.Proofs.Engine.Entry

/-!
Opening a game, afresh or from a slot.

Either way the timers are stopped, the state to be played is found and put in the place of the one
there was, and its scene is entered (`Opening.turn_eq`).  How far that gets is told by
`Opening.entryEnd?`: nothing is replaced when no game is found (`turn_of_nothing_found`), no scene is
shown when the new game's scene could not be (`turn_of_turnedAway`, `turn_of_stranded`), and a scene
that is shown is the one at which the new game stands (`turn_of_unsettled`, `turn_of_arrived`).
-/

set_option autoImplicit false

namespace InteractiveFiction

open Course

/-! ## Before and after an opening -/

namespace Sitting

/-- The sitting with its timers stopped. -/
def stopped (s : Sitting) : Sitting :=
  { s with engine := s.engine.stopTimers }

/-- The sitting once its game runs. -/
def begun (s : Sitting) : Sitting :=
  { s with engine := { s.engine with status := .running }.startTimers s.world.elapsed }

theorem untimed_begun (s : Sitting) :
    s.begun.engine.untimed = { s.engine with status := .running }.untimed :=
  Engine.untimed_startTimers _ _

theorem status_begun (s : Sitting) : s.begun.engine.status = .running :=
  (congrArg Engine.status s.untimed_begun :)

theorem state_begun (s : Sitting) : s.begun.engine.state = s.engine.state :=
  (congrArg Engine.state s.untimed_begun :)

theorem delayed_begun (s : Sitting) : s.begun.engine.delayed = s.engine.delayed :=
  (congrArg Engine.delayed s.untimed_begun :)

theorem stance_begun (s : Sitting) :
    s.begun.stance = (.running, s.engine.scene, s.engine.place) :=
  Engine.stance_startTimers _ _

end Sitting

namespace Turn

theorem outcome_stopTimers (s : Sitting) : outcome stopTimers s = (.ok (), s.stopped) := rfl

theorem outcome_setRunning (s : Sitting) : outcome setRunning s = (.ok (), s.begun) := rfl

theorem outcome_requireInitialized {s : Sitting} (initialized : s.engine.status ≠ .uninitialized)
    (operation : String) : outcome (requireInitialized operation) s = (.ok (), s) := by
  unfold requireInitialized
  rw [outcome_bind_of_ok (outcome_engine s), if_neg initialized]
  rfl

end Turn

/-! ## Opening a game -/

/-- Where a game comes from. -/
inductive Opening where
  | newGame (story player : Document)
  | savedGame (slot : String)

namespace Opening

def turn : Opening → Turn PresentedScene
  | .newGame story player => Turn.startNewGame story player
  | .savedGame slot => Turn.loadGame slot

def operation : Opening → String
  | .newGame .. => "start_new_game"
  | .savedGame _ => "load_game"

def mode : Opening → Turn.EntryMode
  | .newGame .. => .start
  | .savedGame _ => .resume

/-- The state to be played, found without a change to the engine. -/
def find : Opening → Turn GameState
  | .newGame story player => do
    let content := (← Turn.engine).content
    let start ← content.startingScene story
    Turn.modifyWorld fun world => { world with issued := world.issued + 1 }
    let world ← Turn.world
    pure (.starting world.now (Identity.uuid world.issued) story start player
      (← Turn.engine).config.settings)
  | .savedGame slot => do
    let world ← Turn.world
    world.store.load world.now slot

/-- Puts the state to be played in the place of the one there was; no scene is shown any more. -/
def replace (opening : Opening) : Turn Document := do
  let state ← opening.find
  Turn.modifyEngine fun engine => { engine with state := some state }.resetScene
  pure state.currentSceneId

/-- Puts the game in place and enters its scene. -/
def enter (opening : Opening) : Turn PresentedScene := do
  Turn.enterScene (← opening.replace) opening.mode

/-- How an opening is announced. -/
def announcement (opening : Opening) (id : Document) : Event :=
  match opening with
  | .newGame story _ => .gameStarted id story
  | .savedGame slot => .gameLoaded id slot

theorem currentSceneId_starting (now : Instant) (id story scene player : Document)
    (settings : Settings) :
    (GameState.starting now id story scene player settings).currentSceneId = scene := rfl

theorem turn_eq (opening : Opening) :
    opening.turn = (do
      Turn.requireInitialized opening.operation
      Turn.stopTimers
      let scene ← Turn.reporting opening.operation opening.enter
      Turn.setRunning
      Turn.publish (opening.announcement (← Turn.state).id)
      pure scene) := by
  cases opening with
  | newGame story player =>
    unfold turn Turn.startNewGame Turn.newGame enter replace find
    simp only [bind_assoc, pure_bind, operation, mode, announcement, currentSceneId_starting]
  | savedGame slot =>
    unfold turn Turn.loadGame enter replace find
    simp only [bind_assoc, pure_bind, operation, mode, announcement]

/-! ## How far an opening gets -/

/-- How far the entry into the game got, if a game was found. -/
def entryEnd? (opening : Opening) (s : Sitting) : Option Turn.EntryEnd :=
  match outcome opening.replace s.stopped with
  | (.error _, _) => none
  | (.ok id, s) => some (Turn.entryEnd id opening.mode s)

/-- An engine that is not initialized refuses. -/
theorem turn_of_uninitialized {opening : Opening} {s : Sitting}
    (uninitialized : s.engine.status = .uninitialized) :
    ∃ fault, outcome opening.turn s = (.error fault, s.blame opening.operation fault) := by
  refine ⟨.lifecycle (.notInitialized opening.operation), ?_⟩
  rw [turn_eq]
  refine outcome_bind_of_error ?_ _
  unfold Turn.requireInitialized Turn.reject Turn.report
  rw [outcome_bind_of_ok (Turn.outcome_engine s), if_pos uninitialized]
  rw [outcome_bind_of_ok (Turn.outcome_publish _ _)]
  rfl

theorem turn_of_enter_error {opening : Opening} {s t : Sitting} {fault : Fault}
    (initialized : s.engine.status ≠ .uninitialized)
    (entered : outcome opening.enter s.stopped = (.error fault, t)) :
    outcome opening.turn s = (.error fault, t.blame opening.operation fault) := by
  rw [turn_eq, outcome_bind_of_ok (Turn.outcome_requireInitialized initialized _)]
  rw [outcome_bind_of_ok (Turn.outcome_stopTimers s)]
  exact outcome_bind_of_error (Turn.outcome_reporting_of_error entered _) _

theorem outcome_turn_of_enter_ok {opening : Opening} {s t : Sitting} {presented : PresentedScene}
    {state : GameState} (initialized : s.engine.status ≠ .uninitialized)
    (entered : outcome opening.enter s.stopped = (.ok presented, t))
    (isState : t.engine.state = some state) :
    outcome opening.turn s =
      (.ok presented, t.begun.announce (opening.announcement state.id)) := by
  have isState' : t.begun.engine.state = some state := by
    rw [← isState]
    exact (congrArg Engine.state (Engine.untimed_startTimers _ _) :)
  rw [turn_eq, outcome_bind_of_ok (Turn.outcome_requireInitialized initialized _)]
  rw [outcome_bind_of_ok (Turn.outcome_stopTimers s)]
  rw [outcome_bind_of_ok (Turn.outcome_reporting_of_ok entered _)]
  rw [outcome_bind_of_ok (Turn.outcome_setRunning t)]
  rw [outcome_bind_of_ok (Turn.outcome_state_of_some isState')]
  rfl

theorem turn_of_enter_ok {opening : Opening} {s t : Sitting} {presented : PresentedScene}
    {place : Place} (initialized : s.engine.status ≠ .uninitialized)
    (entered : outcome opening.enter s.stopped = (.ok presented, t))
    (isPlace : t.engine.place = some place) :
    ∃ t', outcome opening.turn s = (.ok presented, t') ∧
      t'.stance = (.running, t.engine.scene, some place) := by
  have stance := t.stance_begun
  rw [isPlace] at stance
  obtain ⟨state, isState, -⟩ := Engine.state_of_place isPlace
  exact ⟨_, outcome_turn_of_enter_ok initialized entered isState, stance⟩

/-- A game that was opened was found, and its scene was entered before it ran. -/
theorem entered_of_turn {opening : Opening} {s t : Sitting} {presented : PresentedScene}
    (opened : outcome opening.turn s = (.ok presented, t)) :
    ∃ state s₁ s₂ game, outcome opening.find s.stopped = (.ok state, s₁) ∧
      outcome (Turn.enterScene state.currentSceneId opening.mode)
        { s₁ with engine := { s₁.engine with state := some state }.resetScene } =
          (.ok presented, s₂) ∧
      t = s₂.begun.announce (opening.announcement game) := by
  by_cases asleep : s.engine.status = .uninitialized
  · obtain ⟨fault, refused⟩ : ∃ fault, outcome opening.turn s =
        (.error fault, s.blame opening.operation fault) := turn_of_uninitialized asleep
    rw [refused] at opened
    cases opened
  · rw [turn_eq, outcome_bind_of_ok (Turn.outcome_requireInitialized asleep _)] at opened
    rw [outcome_bind_of_ok (Turn.outcome_stopTimers s)] at opened
    obtain ⟨shown, s₂, reported, afterEntry⟩ := ok_of_outcome_bind opened
    obtain ⟨id, s', replaced, entered⟩ := ok_of_outcome_bind (Turn.ok_of_reporting reported)
    obtain ⟨state, s₁, found, put⟩ := ok_of_outcome_bind replaced
    cases put
    rw [outcome_bind_of_ok (Turn.outcome_setRunning s₂)] at afterEntry
    obtain ⟨game, s₃, isState, announced⟩ := ok_of_outcome_bind afterEntry
    obtain ⟨rfl, -⟩ := Turn.some_of_outcome_state isState
    cases announced
    exact ⟨state, s₁, s₂, game.id, found, entered, rfl⟩

theorem find_keeps_engine (opening : Opening) :
    Confined Sitting.engine AnyFault opening.find := by
  cases opening with
  | newGame story player =>
    refine .bind Turn.confined_engine fun engine => ?_
    refine .bind (Turn.confined_lift (Result.anyFault _)) fun start => ?_
    refine .bind (.modify fun _ => rfl) fun _ => .bind Turn.confined_world fun world => ?_
    exact .bind Turn.confined_engine fun _ => .pure _
  | savedGame slot =>
    exact .bind Turn.confined_world fun world => Turn.confined_lift (Result.anyFault _)

theorem replace_ends {opening : Opening} {s s' : Sitting} {r : Except Fault Document}
    (ends : outcome opening.replace s = (r, s')) :
    match r with
    | .error _ => s'.engine = s.engine
    | .ok id => ∃ state, s'.engine = { s.engine with state := some state }.resetScene ∧
      id = state.currentSceneId := by
  unfold replace at ends
  rcases found : outcome opening.find s with ⟨r', s₁⟩
  obtain ⟨kept, -⟩ := opening.find_keeps_engine.of_outcome found
  cases r' with
  | error fault =>
    rw [outcome_bind_of_error found] at ends
    cases ends
    exact kept
  | ok state =>
    rw [outcome_bind_of_ok found, outcome_bind_of_ok (Turn.outcome_modifyEngine _ _)] at ends
    cases ends
    exact ⟨state, by rw [← kept], rfl⟩

/-! ## The ends of an opening -/

theorem turn_of_nothing_found {opening : Opening} {s : Sitting}
    (initialized : s.engine.status ≠ .uninitialized) (h : opening.entryEnd? s = none) :
    ∃ fault, ∃ t : Sitting,
      outcome opening.turn s = (.error fault, t.blame opening.operation fault) ∧
      t.engine = s.engine.stopTimers := by
  unfold entryEnd? at h
  rcases replaced : outcome opening.replace s.stopped with ⟨r, t⟩
  have kept := replace_ends replaced
  rw [replaced] at h
  cases r with
  | error fault =>
    exact ⟨fault, t, turn_of_enter_error initialized (outcome_bind_of_error replaced _), kept⟩
  | ok id => cases h

/-- A game that was found is in place, with no timer and with no scene shown, before its scene is
entered. -/
theorem found_of_entryEnd? {opening : Opening} {s : Sitting} {entryEnd : Turn.EntryEnd}
    (h : opening.entryEnd? s = some entryEnd) :
    ∃ state, ∃ t : Sitting, t.engine = { s.engine.stopTimers with state := some state }.resetScene ∧
      outcome opening.enter s.stopped =
        outcome (Turn.enterScene state.currentSceneId opening.mode) t ∧
      Turn.entryEnd state.currentSceneId opening.mode t = entryEnd := by
  unfold entryEnd? at h
  rcases replaced : outcome opening.replace s.stopped with ⟨r, t⟩
  have put := replace_ends replaced
  rw [replaced] at h
  cases r with
  | error fault => cases h
  | ok id =>
    obtain ⟨state, engine, rfl⟩ := put
    exact ⟨state, t, engine, outcome_bind_of_ok replaced _, Option.some.inj h⟩

variable {opening : Opening} {s : Sitting} {fault : Fault}

theorem turn_of_turnedAway (initialized : s.engine.status ≠ .uninitialized)
    (h : opening.entryEnd? s = some (.turnedAway fault)) :
    ∃ t : Sitting, outcome opening.turn s = (.error fault, t.blame opening.operation fault) ∧
      t.engine.status = s.engine.status ∧ t.engine.timers = [] ∧ t.engine.scene = none := by
  obtain ⟨state, t, engine, same, entry⟩ := found_of_entryEnd? h
  rw [Turn.entry_turnedAway entry] at same
  have bare : (after Turn.sweep t).engine.bare = t.engine.bare :=
    congrArg Prod.fst (Turn.sweep_steady.keeps t)
  rw [engine] at bare
  refine ⟨after Turn.sweep t, turn_of_enter_error initialized same, ?_, ?_, ?_⟩
  · exact (congrArg Engine.status bare :)
  · exact (congrArg Engine.timers bare :)
  · exact (congrArg Engine.scene bare :)

theorem turn_of_stranded (initialized : s.engine.status ≠ .uninitialized)
    (h : opening.entryEnd? s = some (.stranded fault)) :
    ∃ t : Sitting, outcome opening.turn s = (.error fault, t.blame opening.operation fault) ∧
      t.engine.status = s.engine.status ∧ t.engine.timers = [] ∧ t.engine.scene = none := by
  obtain ⟨state, t, engine, same, entry⟩ := found_of_entryEnd? h
  obtain ⟨-, t', stranded, scenery⟩ := Turn.entry_stranded entry
  rw [stranded] at same
  have status : t'.engine.status = t.engine.status :=
    congrArg (fun scenery => scenery.1.status) scenery
  have timers : t'.engine.timers = t.engine.forgetDelayed.timers :=
    congrArg (fun scenery => scenery.1.timers) scenery
  have scene : t'.engine.scene = t.engine.scene :=
    congrArg (fun scenery => scenery.1.scene) scenery
  rw [engine] at status timers scene
  exact ⟨t', turn_of_enter_error initialized same, status, timers, scene⟩

theorem turn_of_unsettled (initialized : s.engine.status ≠ .uninitialized)
    (h : opening.entryEnd? s = some (.unsettled fault)) :
    ∃ t : Sitting, ∃ presented place,
      outcome opening.turn s = (.error fault, t.blame opening.operation fault) ∧
      t.engine.timers = [] ∧ t.stance = (s.engine.status, some presented, some place) ∧
      presented.scene.id = place.scene := by
  obtain ⟨state, t, engine, same, entry⟩ := found_of_entryEnd? h
  obtain ⟨-, t', presented, now, unsettled, shows, scenery⟩ := Turn.entry_unsettled entry
  rw [unsettled] at same
  have stance := stance_of_shownScenery scenery
  have timers : t'.engine.timers = t.engine.forgetDelayed.timers :=
    congrArg (fun scenery => scenery.1.timers) scenery
  rw [engine] at stance timers
  exact ⟨t', presented, state.place, turn_of_enter_error initialized same, timers, stance, shows⟩

theorem turn_of_arrived {presented : PresentedScene} (initialized : s.engine.status ≠ .uninitialized)
    (h : opening.entryEnd? s = some (.arrived presented)) :
    ∃ t place, outcome opening.turn s = (.ok presented, t) ∧
      t.stance = (.running, some presented, some place) ∧ presented.scene.id = place.scene := by
  obtain ⟨state, t, engine, same, entry⟩ := found_of_entryEnd? h
  obtain ⟨t', arrived, shows, stance⟩ := Turn.entry_arrived entry
  rw [arrived] at same
  rw [engine] at stance
  obtain ⟨-, isScene, isPlace⟩ := Sitting.stance_eq_iff.1 stance
  obtain ⟨t'', opened, stance'⟩ := turn_of_enter_ok initialized same isPlace
  rw [isScene] at stance'
  exact ⟨t'', _, opened, stance', shows⟩

end Opening

end InteractiveFiction
