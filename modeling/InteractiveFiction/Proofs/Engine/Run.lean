import InteractiveFiction.Proofs.Engine.Choosing
import InteractiveFiction.Proofs.Engine.Opening

/-!
The runs of an engine: any operations in any order, each of which may fail, with time passing and
the world changing between them.

* `Operation`, `Sitting.step`, `Sitting.run`: what can be done with an engine, and what becomes of
  it.
-/

set_option autoImplicit false

namespace InteractiveFiction

open Course

/-! ## Operations -/

/-- What can be done with an engine, and what can happen around it. -/
inductive Operation where
  | wake
  | begin (opening : Opening)
  | pause
  | resume
  | shutdown
  | choose (choice : Document)
  | navigate (scene : Document)
  | useItem (item : Document)
  | interact (character kind : Document)
  | updateSettings (changes : Fields)
  | applyBundle (effect : Document)
  | autosave
  | manualSave (name : Document)
  | listSlots
  | pass (seconds : Float)
  /-- The clock is set, identities are issued and games are saved or deleted elsewhere. -/
  | outside (world : World)

def Operation.turn : Operation → Turn Unit
  | .wake => Turn.wake
  | .begin opening => do let _ ← opening.turn
  | .pause => Turn.pauseGame
  | .resume => Turn.resumeGame
  | .shutdown => Turn.shutdown
  | .choose choice => do let _ ← Turn.makeChoice choice
  | .navigate scene => do let _ ← Turn.navigate scene
  | .useItem item => do let _ ← Turn.useItem item
  | .interact character kind => do let _ ← Turn.interact character kind
  | .updateSettings changes => do let _ ← Turn.updateSettings changes
  | .applyBundle effect => do let _ ← Turn.applyBundle effect
  | .autosave => do let _ ← Turn.autosave
  | .manualSave name => do let _ ← Turn.manualSave name
  | .listSlots => do let _ ← Turn.listSlots
  | .pass seconds => Turn.pass seconds
  | .outside world => Turn.modifyWorld fun _ => world

namespace Sitting

def fresh (world : World) (content : Repository) (config : EngineConfig) (audio : AudioSink) :
    Sitting :=
  { world, engine := { content, config, audio } }

def step (s : Sitting) (operation : Operation) : Sitting :=
  after operation.turn s

def run (s : Sitting) (operations : List Operation) : Sitting :=
  operations.foldl step s

theorem run_append (s : Sitting) (operations : List Operation) (operation : Operation) :
    s.run (operations ++ [operation]) = (s.run operations).step operation := by
  rw [run, List.foldl_append]
  rfl

def setClock (s : Sitting) (now : Instant) : Sitting :=
  { s with world := { s.world with now } }

end Sitting

def Sitting.InProgress (s : Sitting) : Prop :=
  s.engine.status = .running ∨ s.engine.status = .paused

theorem Sitting.InProgress.initialized {s : Sitting} (h : s.InProgress) :
    s.engine.status ≠ .uninitialized := by
  rcases h with running | paused
  · rw [running]
    decide
  · rw [paused]
    decide

/-- What is made of the value of a turn does not matter to what the turn leaves. -/
theorem Turn.after_discard {α : Type} (turn : Turn α) (s : Sitting) :
    after (do let _ ← turn : Turn Unit) s = after turn s := by
  rw [after, outcome_bind, outcome_eq, after]
  cases result turn s <;> rfl

namespace Sitting

variable (s : Sitting)

theorem step_begin (opening : Opening) : s.step (.begin opening) = after opening.turn s :=
  Turn.after_discard _ s

theorem step_choose (id : Document) : s.step (.choose id) = after (Turn.makeChoice id) s :=
  Turn.after_discard _ s

theorem step_navigate (id : Document) : s.step (.navigate id) = after (Turn.navigate id) s :=
  Turn.after_discard _ s

end Sitting

/-! ## A harbour

Small stories on which statements about runs are tried. -/

namespace Harbour

def pier : Scene where
  id := "pier"
  choiceIds := ["board", "dare"]
  timeEffects := some { effect := { gold := some 1 }, delay := 5.0 }

def deck : Scene where
  id := "deck"
  conditions := .object [("playerGold", .int 1000)]

/-- Pays, curses, and sends the player on board. -/
def board : Choice where
  id := "board"
  target := "pier"
  effects := {
    gold := some 10
    custom := [⟨"teleport", [("targetScene", "deck")]⟩,
      ⟨"curse", [("curseType", "hex"), ("duration", .float 60.0)]⟩] }

def dare : Choice where
  id := "dare"
  target := "pier"
  effects := { custom := [⟨"curse", [("curseType", "hex"), ("duration", .float 60.0)]⟩] }

def ferry : Story where
  id := "ferry"
  title := "The ferry"
  startingSceneId := "pier"
  scenes := [pier, deck]
  choices := [board, dare]

def cruise : Story where
  id := "cruise"
  title := "The cruise"
  startingSceneId := "deck"
  scenes := [deck]

def library : Repository :=
  { volumes := [⟨ferry, none⟩, ⟨cruise, none⟩] }

def onPier : Sitting :=
  (Sitting.fresh { now := 1000000.0 } library {} {}).run [.wake, .begin (.newGame "ferry" "Ada")]

/-- Ten minutes after a curse of one minute. -/
def hexed : Sitting :=
  (onPier.step (.choose "dare")).setClock 1000600.0

end Harbour

end InteractiveFiction
