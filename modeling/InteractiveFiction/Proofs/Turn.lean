import InteractiveFiction.Engine.Passage
import InteractiveFiction.Proofs.Effect.Backdrop
import InteractiveFiction.Proofs.Faults

/-!
Turns step by step: where the primitive ones end, and what all but a few of them leave alone.

* `Sitting.footing`: the engine apart from what was announced and played, with nothing of the state
  of the game but which game of which story it is and where it stands.
* `Steady turn`: a turn that leaves the footing alone.  Announcing, applying bundles, counting
  progress, unlocking and saving are steady; entering scenes and the changes of an engine's life
  are not.
* `Grounded turn`: a steady turn that leaves the settings of the game alone as well.
-/

set_option autoImplicit false

namespace InteractiveFiction

open Course

/-! ## Footing -/

/-- Which game of which story it is, and the scene it stands at. -/
structure Place where
  id : Document
  story : Document
  scene : Document

def GameState.place (state : GameState) : Place :=
  ⟨state.id, state.storyId, state.currentSceneId⟩

theorem GameState.place_of_standing {state other : GameState}
    (h : state.standing = other.standing) : state.place = other.place :=
  congrArg (fun standing : Standing => Place.mk standing.id standing.story standing.scene) h

/-- The engine apart from the state of the game, and from what was announced and played. -/
def Engine.bare (engine : Engine) : Engine :=
  { engine with state := none, played := [], published := [] }

def Engine.place (engine : Engine) : Option Place :=
  engine.state.map GameState.place

def Sitting.footing (s : Sitting) : Engine × Option Place :=
  (s.engine.bare, s.engine.place)

/-- The settings of the game, if there is one. -/
def Sitting.settings (s : Sitting) : Option Settings :=
  s.engine.state.map GameState.settings

def Sitting.ground (s : Sitting) : (Engine × Option Place) × Option Settings :=
  (s.footing, s.settings)

/-- Whether there is a game, what is shown of it, and where it stands. -/
def Engine.stance (engine : Engine) : EngineStatus × Option PresentedScene × Option Place :=
  (engine.status, engine.scene, engine.place)

def Sitting.stance (s : Sitting) : EngineStatus × Option PresentedScene × Option Place :=
  s.engine.stance

theorem Sitting.stance_eq_iff {s : Sitting} {status : EngineStatus}
    {scene : Option PresentedScene} {place : Option Place} :
    s.stance = (status, scene, place) ↔
      s.engine.status = status ∧ s.engine.scene = scene ∧ s.engine.place = place := by
  unfold stance Engine.stance
  rw [Prod.mk.injEq, Prod.mk.injEq]

/-! ### Timers -/

def Engine.untimed (engine : Engine) : Engine :=
  { engine with timers := [] }

namespace Engine

variable (engine : Engine) (elapsed : Float)

theorem untimed_arm : (engine.arm elapsed).untimed = engine.untimed := by
  unfold arm
  split
  · split <;> rfl
  · rfl

theorem untimed_startPlaytime : (engine.startPlaytime elapsed).untimed = engine.untimed := rfl

theorem untimed_startAutosave : (engine.startAutosave elapsed).untimed = engine.untimed := by
  unfold startAutosave
  split <;> rfl

theorem untimed_startTimers : (engine.startTimers elapsed).untimed = engine.untimed := by
  unfold startTimers
  dsimp only
  rw [untimed_arm]
  split
  · exact untimed_startAutosave _ elapsed
  · rfl

theorem delayed_arm : (engine.arm elapsed).delayed = engine.delayed :=
  (congrArg delayed (untimed_arm engine elapsed) :)

theorem delayed_startAutosave : (engine.startAutosave elapsed).delayed = engine.delayed :=
  (congrArg delayed (untimed_startAutosave engine elapsed) :)

theorem stance_arm : (engine.arm elapsed).stance = engine.stance :=
  (congrArg stance (untimed_arm engine elapsed) :)

theorem stance_startAutosave : (engine.startAutosave elapsed).stance = engine.stance :=
  (congrArg stance (untimed_startAutosave engine elapsed) :)

theorem stance_startTimers : (engine.startTimers elapsed).stance = engine.stance :=
  (congrArg stance (untimed_startTimers engine elapsed) :)

theorem state_of_place {engine : Engine} {place : Place} (h : engine.place = some place) :
    ∃ state, engine.state = some state ∧ state.place = place :=
  Option.map_eq_some_iff.1 h

end Engine

abbrev AnyFault : Fault → Prop := fun _ => True

theorem Result.anyFault {α : Type} (r : Result α) : Result.FailsIn AnyFault r :=
  fun _ _ => trivial

namespace Turn

variable {α β γ : Type} {view : Sitting → γ} {faults : Fault → Prop}

/-! ## Where primitive turns end -/

theorem outcome_engine (s : Sitting) : outcome engine s = (.ok s.engine, s) := rfl

theorem outcome_now (s : Sitting) : outcome now s = (.ok s.world.now, s) := rfl

theorem outcome_lift (r : Result α) (s : Sitting) : outcome (liftM r : Turn α) s = (r, s) := by
  cases r <;> rfl

theorem outcome_modifyEngine (change : Engine → Engine) (s : Sitting) :
    outcome (modifyEngine change) s = (.ok (), { s with engine := change s.engine }) := rfl

theorem outcome_modifyState (change : GameState → GameState) (s : Sitting) :
    outcome (modifyState change) s =
      (.ok (), { s with engine := { s.engine with state := s.engine.state.map change } }) := rfl

theorem outcome_state (s : Sitting) :
    outcome Turn.state s =
      (match s.engine.state with
        | some state => .ok state
        | none => .error (.noField "NoneType" "state"), s) := by
  unfold Turn.state
  rw [outcome_bind_of_ok (outcome_engine s)]
  cases s.engine.state <;> rfl

theorem some_of_outcome_state {s s' : Sitting} {state : GameState}
    (h : outcome Turn.state s = (.ok state, s')) : s' = s ∧ s.engine.state = some state := by
  rw [outcome_state] at h
  cases hs : s.engine.state with
  | none =>
    rw [hs] at h
    cases h
  | some game =>
    rw [hs] at h
    cases h
    exact ⟨rfl, rfl⟩

theorem outcome_state_of_some {s : Sitting} {state : GameState} (h : s.engine.state = some state) :
    outcome Turn.state s = (.ok state, s) := by
  rw [outcome_state, h]

end Turn

def Sitting.announce (s : Sitting) (event : Event) : Sitting :=
  { s with engine := { s.engine with
      published := s.engine.published ++ [⟨event, s.world.now⟩] } }

/-- The sitting once an operation has failed, with the fault announced if it is one of the rules. -/
def Sitting.blame (s : Sitting) (operation : String) (fault : Fault) : Sitting :=
  if fault.isOfGame then s.announce (.error operation fault.family fault.message) else s

namespace Sitting

variable (s : Sitting) (operation : String) (fault : Fault)

theorem state_blame : (s.blame operation fault).engine.state = s.engine.state := by
  unfold blame
  split <;> rfl

theorem footing_blame : (s.blame operation fault).footing = s.footing := by
  unfold blame
  split <;> rfl

end Sitting

namespace Turn

variable {α β γ : Type} {view : Sitting → γ} {faults : Fault → Prop}

theorem outcome_publish (event : Event) (s : Sitting) :
    outcome (publish event) s = (.ok (), s.announce event) := rfl

theorem outcome_reporting_of_ok {turn : Turn α} {s s' : Sitting} {a : α}
    (h : outcome turn s = (.ok a, s')) (operation : String) :
    outcome (reporting operation turn) s = (.ok a, s') := by
  unfold reporting
  rw [outcome_tryCatch, h]

theorem outcome_reporting_of_error {turn : Turn α} {s s' : Sitting} {fault : Fault}
    (h : outcome turn s = (.error fault, s')) (operation : String) :
    outcome (reporting operation turn) s = (.error fault, s'.blame operation fault) := by
  unfold reporting
  rw [outcome_tryCatch, h]
  dsimp only
  unfold Sitting.blame report
  split
  · rw [outcome_bind_of_ok (outcome_publish _ _), outcome_throw]
  · rw [outcome_throw]

theorem ok_of_reporting {operation : String} {turn : Turn α} {s s' : Sitting} {a : α}
    (ends : outcome (reporting operation turn) s = (.ok a, s')) : outcome turn s = (.ok a, s') := by
  rcases ended : outcome turn s with ⟨r, s₁⟩
  cases r with
  | ok a' =>
    rw [outcome_reporting_of_ok ended] at ends
    exact ends
  | error fault =>
    rw [outcome_reporting_of_error ended] at ends
    cases ends

theorem error_of_reporting {operation : String} {turn : Turn α} {s s' : Sitting} {fault : Fault}
    (ends : outcome (reporting operation turn) s = (.error fault, s')) :
    ∃ s₁, outcome turn s = (.error fault, s₁) ∧ s' = s₁.blame operation fault := by
  rcases ended : outcome turn s with ⟨r, s₁⟩
  cases r with
  | ok a =>
    rw [outcome_reporting_of_ok ended] at ends
    cases ends
  | error fault' =>
    rw [outcome_reporting_of_error ended] at ends
    cases ends
    exact ⟨s₁, rfl, rfl⟩

theorem outcome_reporting_congr {turn turn' : Turn α} {s : Sitting}
    (h : outcome turn s = outcome turn' s) (operation : String) :
    outcome (reporting operation turn) s = outcome (reporting operation turn') s := by
  unfold reporting
  rw [outcome_tryCatch, outcome_tryCatch, h]

theorem outcome_requireStatus_of_eq {status : EngineStatus} {s : Sitting}
    (h : s.engine.status = status) (operation : String) :
    outcome (requireStatus status operation) s = (.ok (), s) := by
  unfold requireStatus
  rw [outcome_bind_of_ok (outcome_engine s), if_neg (not_not_intro h)]
  rfl

theorem outcome_requireStatus_of_ne {status : EngineStatus} {s : Sitting}
    (h : s.engine.status ≠ status) (operation : String) :
    outcome (requireStatus status operation) s =
      (.error (.lifecycle (.wrongStatus operation status.label s.engine.status.label)), s) := by
  unfold requireStatus
  rw [outcome_bind_of_ok (outcome_engine s), if_pos h]
  rfl

/-- Whether a failed operation was blamed shows in what was announced, and in nothing else. -/
theorem footing_of_blamed {turn : Turn α} {s t : Sitting} {r : Except Fault α} {operation : String}
    {fault : Fault} (ended : outcome turn s = (r, t.blame operation fault)) :
    (after turn s).footing = t.footing := by
  rw [after, ended]
  exact Sitting.footing_blame _ _ _

/-! ## Turns that read -/

theorem confined_engine : Confined view faults Turn.engine :=
  .bind .get fun s => .pure s.engine

theorem confined_world : Confined view faults Turn.world :=
  .bind .get fun s => .pure s.world

theorem confined_now : Confined view faults Turn.now :=
  .bind confined_world fun world => .pure world.now

theorem confined_lift {r : Result α} (h : Result.FailsIn faults r) :
    Confined view faults (liftM r : Turn α) :=
  .intro fun s => by
    rw [outcome_lift]
    exact ⟨rfl, h⟩

/-- Where there must be a game and is none, that is an accident. -/
theorem confined_state (h : faults (.noField "NoneType" "state")) :
    Confined view faults Turn.state := by
  refine .bind confined_engine fun engine => ?_
  split
  · exact .pure _
  · exact .throw h

/-! ## Steady turns -/

/-- A turn that leaves the footing alone, and fails only with certain faults. -/
abbrev Steady (faults : Fault → Prop) (turn : Turn α) : Prop :=
  Confined Sitting.footing faults turn

theorem modifyEngine_steady {change : Engine → Engine}
    (bare : ∀ engine, (change engine).bare = engine.bare)
    (place : ∀ engine, (change engine).place = engine.place) :
    Steady faults (modifyEngine change) :=
  .modify fun s => Prod.ext (bare s.engine) (place s.engine)

theorem modifyEngine_keeps_stance {change : Engine → Engine}
    (h : ∀ engine, (change engine).stance = engine.stance) :
    Confined Sitting.stance faults (modifyEngine change) :=
  .modify fun s => h s.engine

theorem stance_of_footing {s t : Sitting} (h : s.footing = t.footing) : s.stance = t.stance :=
  congrArg (fun footing : Engine × Option Place =>
    (footing.1.status, footing.1.scene, footing.2)) h

theorem confined_stance {turn : Turn α} (h : Steady faults turn) :
    Confined Sitting.stance faults turn :=
  ⟨fun s => stance_of_footing (h.keeps s), h.fails⟩

/-- What a change of a game leaves alone is left alone where there is no game, too. -/
theorem map_modified {part : GameState → γ} {change : GameState → GameState}
    (h : ∀ state, part (change state) = part state) (state : Option GameState) :
    (state.map change).map part = state.map part := by
  rw [Option.map_map]
  exact congrArg (fun f => state.map f) (funext h)

theorem modifyState_steady {change : GameState → GameState}
    (h : ∀ state, (change state).place = state.place) : Steady faults (modifyState change) :=
  modifyEngine_steady (fun _ => rfl) fun engine => by
    unfold Engine.place
    cases engine.state with
    | none => rfl
    | some state => exact congrArg some (h state)

/-! ### Steady turns that leave the settings alone too -/

abbrev Grounded (faults : Fault → Prop) (turn : Turn α) : Prop :=
  Confined Sitting.ground faults turn

theorem Grounded.steady {turn : Turn α} (h : Grounded faults turn) : Steady faults turn :=
  h.through fun _ _ same => congrArg Prod.fst same

theorem Grounded.settings {turn : Turn α} (h : Grounded faults turn) :
    Confined Sitting.settings AnyFault turn :=
  (h.through fun _ _ same => congrArg Prod.snd same).weaken fun _ _ => trivial

theorem modifyEngine_grounded {change : Engine → Engine}
    (bare : ∀ engine, (change engine).bare = engine.bare)
    (state : ∀ engine, (change engine).state = engine.state) :
    Grounded faults (modifyEngine change) := by
  refine .modify fun s => Prod.ext (Prod.ext (bare s.engine) ?_) ?_
  · exact congrArg (Option.map GameState.place) (state s.engine)
  · exact congrArg (Option.map GameState.settings) (state s.engine)

theorem modifyState_grounded {change : GameState → GameState}
    (place : ∀ state, (change state).place = state.place)
    (settings : ∀ state, (change state).settings = state.settings) :
    Grounded faults (modifyState change) := by
  refine .and (modifyState_steady place) (.modify fun s => ?_)
  cases hs : s.engine.state with
  | none => simp [Sitting.settings, hs]
  | some state => simp [Sitting.settings, hs, settings]

theorem modifyWorld_grounded (change : World → World) : Grounded faults (modifyWorld change) :=
  .modify fun _ => rfl

theorem publish_grounded (event : Event) : Grounded faults (publish event) :=
  .bind confined_now fun _ => modifyEngine_grounded (fun _ => rfl) fun _ => rfl

theorem play_grounded (call : AudioCall) : Grounded faults (play call) :=
  modifyEngine_grounded (fun _ => rfl) fun _ => rfl

theorem report_grounded (operation : String) (fault : Fault) :
    Grounded faults (report operation fault) :=
  publish_grounded _

theorem reject_grounded {fault : Fault} (operation : String) (h : faults fault) :
    Grounded faults (reject operation fault : Turn α) :=
  .bind (report_grounded _ _) fun _ => .throw h

theorem publish_steady (event : Event) : Steady faults (publish event) :=
  (publish_grounded event).steady

theorem play_steady (call : AudioCall) : Steady faults (play call) :=
  (play_grounded call).steady

theorem report_steady (operation : String) (fault : Fault) :
    Steady faults (report operation fault) :=
  (report_grounded operation fault).steady

theorem reject_steady {fault : Fault} (operation : String) (h : faults fault) :
    Steady faults (reject operation fault : Turn α) :=
  (reject_grounded operation h).steady

theorem confined_reporting (operation : String) {turn : Turn α} (h : Confined view faults turn)
    (announcing : ∀ event, Confined view faults (publish event)) :
    Confined view faults (reporting operation turn) := by
  refine .tryCatch h fun fault mem => ?_
  dsimp only
  split
  · exact .bind (announcing _) fun _ => .throw mem
  · exact .throw mem

/-! ## On the stage -/

end Turn

/-- The stage on which rules work for a game. -/
def Sitting.stage (s : Sitting) (state : GameState) : Stage where
  now := s.world.now
  state := state
  audio := some s.engine.audio
  played := s.engine.played
  published := s.engine.published

def Sitting.withStage (s : Sitting) (stage : Stage) : Sitting :=
  { s with engine := { s.engine with
      state := some stage.state, played := stage.played, published := stage.published } }

namespace Turn

variable {α β γ : Type} {view : Sitting → γ} {faults : Fault → Prop}

theorem outcome_onStage_of_none {s : Sitting} (h : s.engine.state = none) (action : Action α) :
    outcome (onStage action) s = (.error (.noField "NoneType" "state"), s) := by
  unfold onStage
  rw [outcome_bind_of_ok (outcome_get s)]
  dsimp only
  refine outcome_bind_of_error ?_ _
  rw [outcome_state, h]

theorem outcome_onStage_of_some {s : Sitting} {state : GameState} (h : s.engine.state = some state)
    (action : Action α) :
    outcome (onStage action) s =
      (result action (s.stage state), s.withStage (after action (s.stage state))) := by
  unfold onStage
  rw [outcome_bind_of_ok (outcome_get s)]
  dsimp only
  rw [outcome_bind_of_ok (outcome_state_of_some h)]
  rcases ends : outcome action (s.stage state) with ⟨r, stage⟩
  have hr : result action (s.stage state) = r := congrArg Prod.fst ends
  have hs : after action (s.stage state) = stage := congrArg Prod.snd ends
  have run : action.run.run (s.stage state) = (r, stage) := ends
  unfold Sitting.stage at run
  rw [hr, hs, run]
  cases r <;> rfl

/-- Rules that leave the backdrop alone leave the ground alone. -/
theorem onStage_grounded {action : Action α} (h : Confined Stage.backdrop faults action)
    (accident : faults (.noField "NoneType" "state")) : Grounded faults (onStage action) := by
  refine .intro fun s => ?_
  cases hs : s.engine.state with
  | none =>
    rw [outcome_onStage_of_none hs]
    exact ⟨rfl, .throw accident⟩
  | some state =>
    rw [outcome_onStage_of_some hs]
    have kept : (after action (s.stage state)).state.standing = state.standing :=
      congrArg Prod.fst (h.keeps (s.stage state))
    have place : s.engine.place = some state.place := by rw [Engine.place, hs]; rfl
    have settings : s.settings = some state.settings := by rw [Sitting.settings, hs]; rfl
    refine ⟨Prod.ext (Prod.ext rfl ?_) ?_, h.fails _⟩
    · exact (congrArg some (GameState.place_of_standing kept)).trans place.symm
    · exact (congrArg some (congrArg Standing.settings kept)).trans settings.symm

theorem onStage_keeps {action : Action α} (h : Confined Stage.backdrop faults action)
    (accident : faults (.noField "NoneType" "state")) : Steady faults (onStage action) :=
  (onStage_grounded h accident).steady

theorem onStage_steady {action : Action α} (h : InFront action) :
    Steady Fault.IsAccident (onStage action) :=
  onStage_keeps h rfl

/-- Rules that work in front of the backdrop announce nothing but bundles. -/
theorem onStage_announces {action : Action α} (h : InFront action) :
    Confined (fun s => announcements s.engine.published) Fault.IsAccident (onStage action) := by
  refine .intro fun s => ?_
  cases hs : s.engine.state with
  | none =>
    rw [outcome_onStage_of_none hs]
    exact ⟨rfl, .throw rfl⟩
  | some state =>
    rw [outcome_onStage_of_some hs]
    exact ⟨congrArg Prod.snd (h.keeps (s.stage state)), h.fails _⟩

/-! ## Progress, achievements and saving -/

/-- Counting fails only for an id that cannot be one. -/
theorem visitedCount_failsIn {faults : Fault → Prop} {state : GameState}
    (odd : ∀ id ∈ state.progress.scenesVisited,
      id.isKey = false → faults (.mistyped (.notAnId id.kind))) :
    Result.FailsIn faults (visitedCount state) :=
  .bind (.forM fun id mem => Document.checkKey_failsIn (odd id mem)) fun _ => .pure _

theorem eq_length_of_visitedCount {state : GameState} {visited : Nat}
    (counted : visitedCount state = .ok visited) : visited = (visitedOnce state).length := by
  obtain ⟨_, -, count⟩ := Result.ok_of_bind counted
  exact (Except.ok.inj count).symm

/-- What can be counted is named by keys. -/
theorem keys_of_visitedCount {state : GameState} {visited : Nat}
    (counted : visitedCount state = .ok visited) :
    ∀ id ∈ state.progress.scenesVisited, id.isKey = true := by
  obtain ⟨_, checked, -⟩ := Result.ok_of_bind counted
  exact fun id mem => Document.isKey_of_checkKey (Result.ok_of_forM checked id mem)

theorem visitedCount_mild (state : GameState) : Result.Mild (visitedCount state) :=
  visitedCount_failsIn fun _ _ _ => rfl

theorem updateProgress_grounded : Grounded Fault.IsMild updateProgress := by
  refine .bind (confined_state rfl) fun state => .bind confined_engine fun engine => ?_
  refine .bind (confined_lift (engine.content.sceneCount_mild _)) fun total => ?_
  refine .bind (confined_lift (visitedCount_mild state)) fun visited => .branch ?_ (.pure ())
  exact .bind (modifyState_grounded (fun _ => rfl) fun _ => rfl) fun _ => publish_grounded _

theorem unlock_grounded (achievement : Achievement) :
    Grounded Fault.IsMild (unlock achievement) := by
  refine .bind (modifyState_grounded (fun _ => rfl) fun _ => rfl) fun _ => ?_
  refine .bind (publish_grounded _) fun _ => ?_
  exact .bind (confined_state rfl) fun state => .branch (play_grounded _) (.pure ())

theorem checkAchievements_grounded : Grounded Fault.IsMild checkAchievements := by
  refine .bind confined_engine fun engine => .bind (confined_state rfl) fun state => ?_
  refine .bind (confined_lift (engine.content.achievements_mild _)) fun achievements => ?_
  refine .bind (.forIn _ _ fun achievement _ _ => ?_) fun _ => .pure ()
  refine .bind (confined_state rfl) fun state => .branch ?_ (.pure _)
  refine .bind confined_now fun now => ?_
  refine .bind (confined_lift (Condition.evaluate_mild _ _ _)) fun holds => .branch ?_ (.pure _)
  exact .bind (unlock_grounded achievement) fun _ => .pure _

theorem recordChoice_grounded (id scene text : Document) :
    Grounded faults (recordChoice id scene text) :=
  .bind confined_now fun _ => modifyState_grounded (fun _ => rfl) fun _ => rfl

theorem setLastSaved_grounded (lastSaved : Document) : Grounded faults (setLastSaved lastSaved) :=
  modifyState_grounded (fun _ => rfl) fun _ => rfl

theorem savingFault_mild (fault : Fault) : (savingFault fault).IsMild := by
  unfold savingFault
  cases fault <;> rfl

theorem save_grounded (name : Document) (autosave : Bool) :
    Grounded Fault.IsMild (save name autosave) := by
  have touched : ∀ now, Grounded Fault.IsMild (modifyState fun state => state.touch now) :=
    fun now => modifyState_grounded (fun _ => rfl) fun _ => rfl
  refine .bind (confined_state rfl) fun previous => .bind confined_now fun now => ?_
  refine .bind (setLastSaved_grounded _) fun _ => .bind (touched now) fun _ => ?_
  refine .bind confined_world fun world => .bind (confined_state rfl) fun state => ?_
  dsimp only
  refine .bind (modifyWorld_grounded _) fun _ => ?_
  split
  · exact .bind (publish_grounded _) fun _ => .pure _
  · exact .bind (setLastSaved_grounded _) fun _ => .throw (savingFault_mild _)

/-- A game that saves itself never fails by that. -/
theorem autosave_grounded : Grounded faults autosave := by
  refine .bind confined_engine fun engine => .branch ?_ (.pure false)
  have saves : Grounded Fault.IsMild (do let _ ← save "Autosave" true; pure true) :=
    .bind (save_grounded _ _) fun _ => .pure true
  exact .tryCatch saves fun fault _ => .bind (report_grounded _ _) fun _ => .pure false

theorem updateProgress_steady : Steady Fault.IsMild updateProgress :=
  updateProgress_grounded.steady

theorem checkAchievements_steady : Steady Fault.IsMild checkAchievements :=
  checkAchievements_grounded.steady

theorem recordChoice_steady (id scene text : Document) :
    Steady faults (recordChoice id scene text) :=
  (recordChoice_grounded id scene text).steady

theorem save_steady (name : Document) (autosave : Bool) :
    Steady Fault.IsMild (save name autosave) :=
  (save_grounded name autosave).steady

theorem autosave_steady : Steady Fault.IsMild autosave :=
  autosave_grounded.steady

end Turn

end InteractiveFiction
