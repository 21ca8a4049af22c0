import InteractiveFiction.Proofs.Engine.Movement
import InteractiveFiction.Proofs.Engine.Scores
import InteractiveFiction.Proofs.Engine.Stance

/-!
The settings of a game, and its frame: the scenery of its engine with the settings.

* Playing a game never changes its settings.  Entering a scene, choosing and navigating leave them as
  they are, whether that fails or not, and a choice that is taken back brings back the settings there
  were (`makeChoice_keepsSettings`, `navigate_keepsSettings`).
* Items, characters, bundles and saves leave the frame alone, and so does whatever happens outside
  (`keepsFrame_of_isQuiet`).
* The other operations aside from scenes change it in few ways: `frame_of_wake`, `frame_of_pause`,
  `frame_of_resume`, `frame_of_shutdown`, `frame_of_updateSettings`.
-/

set_option autoImplicit false

namespace InteractiveFiction

open Course

namespace Turn

variable {α : Type}

abbrev KeepsSettings (turn : Turn α) : Prop :=
  Confined Sitting.settings AnyFault turn

/-- What only looks at the game leaves its settings alone. -/
theorem keepsSettings_of_reads {turn : Turn α} (h : Confined (fun s => s) AnyFault turn) :
    KeepsSettings turn :=
  h.through fun _ _ same => congrArg Sitting.settings same

theorem modifyState_keepsSettings {change : GameState → GameState}
    (h : ∀ state, (change state).settings = state.settings) :
    KeepsSettings (modifyState change) := by
  refine .modify fun s => ?_
  cases hs : s.engine.state with
  | none => simp [Sitting.settings, hs]
  | some state => simp [Sitting.settings, hs, h]

theorem publish_keepsSettings (event : Event) : KeepsSettings (publish event) :=
  (publish_grounded event : Grounded AnyFault (publish event)).settings

theorem onStage_keepsSettings {action : Action α} (h : InFront action) :
    KeepsSettings (onStage action) :=
  (onStage_grounded h rfl).settings

theorem reporting_keepsSettings (operation : String) {turn : Turn α} (h : KeepsSettings turn) :
    KeepsSettings (reporting operation turn) :=
  confined_reporting operation h publish_keepsSettings

theorem requireStatus_keepsSettings (status : EngineStatus) (operation : String) :
    KeepsSettings (requireStatus status operation) :=
  .bind confined_engine fun _ => .branch (.throw trivial) (.pure ())

/-! ## Scenes -/

theorem arrive_keepsSettings (id : Document) (mode : EntryMode) (scene : Scene) :
    KeepsSettings (arrive id mode scene) := by
  have moves : KeepsSettings (moveTo id mode) := by
    refine .bind (.modify fun _ => rfl) fun _ => ?_
    refine .bind (modifyState_keepsSettings fun _ => rfl) fun _ => ?_
    exact .branch (modifyState_keepsSettings fun _ => rfl) (.pure ())
  have prepares : KeepsSettings (prepareScene scene) := by
    refine .bind confined_engine fun engine => .bind (confined_state trivial) fun state => ?_
    refine .bind (confined_lift (Result.anyFault _)) fun characters => ?_
    refine .bind (.modify fun _ => rfl) fun _ => .bind (confined_state trivial) fun _ => ?_
    have renders := keepsSettings_of_reads (renderScene_reads engine.content scene)
    exact .branch (.bind (.modify fun _ => rfl) fun _ => renders) renders
  have reaches : KeepsSettings (reach id mode scene) := by
    refine .bind moves fun _ => ?_
    have applies := onStage_keepsSettings scene.effects.process_inFront
    exact .branch (.bind applies fun _ => prepares) prepares
  exact .bind reaches fun _ => .bind (.modify fun _ => rfl) fun _ => .pure _

theorem settleIn_keepsSettings (id : Document) (mode : EntryMode) (scene : Scene)
    (presented : PresentedScene) : KeepsSettings (settleIn id mode scene presented) := by
  have counted : KeepsSettings (countVisit id presented) := by
    refine .bind updateProgress_grounded.settings fun _ => ?_
    exact .bind checkAchievements_grounded.settings fun _ => publish_keepsSettings _
  refine .bind counted fun _ => .branch (.bind confined_world fun world => ?_) (.pure _)
  refine .bind (.modify fun s => ?_) fun _ => .pure _
  have armed := Engine.untimed_arm { s.engine with delayed := scene.timeEffects } world.elapsed
  exact (congrArg (fun engine : Engine => engine.state.map GameState.settings) armed :)

theorem enterScene_keepsSettings (id : Document) (mode : EntryMode) :
    KeepsSettings (enterScene id mode) := by
  have sweeps : KeepsSettings sweep :=
    .bind confined_now fun now => onStage_keepsSettings (TimedEffect.expire_inFront now)
  rw [enterScene_eq]
  have approaches : KeepsSettings (approach id mode) :=
    .bind sweeps fun _ => keepsSettings_of_reads (findScene_reads id mode)
  refine .bind approaches fun scene => ?_
  refine .bind (arrive_keepsSettings id mode scene) fun presented => ?_
  exact settleIn_keepsSettings id mode scene presented

theorem navigate_keepsSettings (id : Document) : KeepsSettings (navigate id) :=
  reporting_keepsSettings _ (.bind (requireStatus_keepsSettings _ _) fun _ =>
    enterScene_keepsSettings id {})

/-! ## Choices -/

theorem endGame_keepsSettings : KeepsSettings endGame := by
  have lastSave : KeepsSettings (do let _ ← save finalSaveName false) :=
    .bind (save_grounded _ _).settings fun _ => .pure ()
  have rest : KeepsSettings (do
      checkAchievements
      tryCatch
        (do
          let _ ← save finalSaveName false)
        fun fault => report "end_game" fault
      play .stopAll
      announceEnd) := by
    refine .bind checkAchievements_grounded.settings fun _ => ?_
    refine .bind (.tryCatch lastSave fun _ _ => publish_keepsSettings _) fun _ => ?_
    refine .bind (.modify fun _ => rfl) fun _ => .bind (confined_state trivial) fun state => ?_
    exact .bind (confined_lift (Result.anyFault _)) fun _ => publish_keepsSettings _
  refine .bind confined_engine fun engine => .branch ?_ (.pure ())
  exact .bind (.modify fun _ => rfl) fun _ => rest

theorem commit_keepsSettings (id : Document) : KeepsSettings (commit id) := by
  refine .bind (keepsSettings_of_reads (weigh_reads id)) fun weighed => ?_
  refine .bind (onStage_keepsSettings weighed.2.1.effects.process_inFront) fun effects => ?_
  have records : Grounded AnyFault (recordChoice id weighed.2.2.currentSceneId weighed.1.text) :=
    recordChoice_grounded _ _ _
  exact .bind records.settings fun _ => .pure _

/-- A state that is put back has the settings there are. -/
theorem settings_of_conclude {id : Document} {commitment : Commitment} {s t : Sitting}
    {r : Except Fault ChoiceOutcome} (own : s.settings = some commitment.before.settings)
    (ends : outcome (conclude id commitment) s = (r, t)) : t.settings = s.settings := by
  cases conclusion_of_conclude ends with
  | led truthy entered => exact ((enterScene_keepsSettings _ {}).of_outcome entered).1
  | @unfollowed s₁ fault truthy unentered =>
    have kept := ((enterScene_keepsSettings commitment.target {}).of_outcome unentered).1
    split
    · have game : s₁.settings = some commitment.before.settings := kept.trans own
      obtain ⟨state, isState, -⟩ := Option.map_eq_some_iff.1 game
      have back : (s₁.putBack commitment.before).settings = some commitment.before.settings := by
        simp [Sitting.settings, Sitting.putBack, isState]
      exact back.trans own.symm
    · exact kept
  | ended closed => exact (endGame_keepsSettings.of_outcome closed).1
  | unended unclosed => exact (endGame_keepsSettings.of_outcome unclosed).1

theorem makeChoice_keepsSettings (id : Document) : KeepsSettings (makeChoice id) := by
  refine reporting_keepsSettings _ (.bind confined_engine fun engine => ?_)
  have resolves : KeepsSettings (resolveChoice id) := by
    rw [resolveChoice_eq]
    refine .intro fun s => ⟨?_, Result.anyFault _⟩
    rcases committed : outcome (commit id) s with ⟨r, s₁⟩
    have kept := ((commit_keepsSettings id).of_outcome committed).1
    cases r with
    | error fault =>
      rw [outcome_bind_of_error committed]
      exact kept
    | ok commitment =>
      rw [outcome_bind_of_ok committed]
      have isBefore : s.engine.state = some commitment.before := (commit_ends committed).2
      have own : s₁.settings = some commitment.before.settings := by
        rw [kept, Sitting.settings, isBefore]
        rfl
      exact (settings_of_conclude own rfl).trans kept
  have required : KeepsSettings (do requireStatus .running "make_choice"; resolveChoice id) :=
    .bind (requireStatus_keepsSettings _ _) fun _ => resolves
  exact .branch (.bind (.throw trivial) fun _ => required) required

end Turn

/-! ## Frames -/

def Sitting.frame (s : Sitting) : Scenery × Option Settings :=
  (s.scenery, s.settings)

theorem Sitting.frame_of_ground {s t : Sitting} (h : s.ground = t.ground) : s.frame = t.frame :=
  Prod.ext (Turn.scenery_of_footing (congrArg Prod.fst h)) (congrArg Prod.snd h :)

namespace Turn

variable {α : Type}

/-! ## Turns that leave the frame alone -/

abbrev KeepsFrame (turn : Turn α) : Prop :=
  Confined Sitting.frame AnyFault turn

theorem Grounded.confined_frame {faults : Fault → Prop} {turn : Turn α}
    (h : Grounded faults turn) : Confined Sitting.frame faults turn :=
  h.through fun _ _ same => Sitting.frame_of_ground same

theorem Grounded.frame {faults : Fault → Prop} {turn : Turn α} (h : Grounded faults turn) :
    KeepsFrame turn :=
  h.confined_frame.weaken fun _ _ => trivial

theorem publish_keepsFrame (event : Event) : KeepsFrame (publish event) :=
  (publish_grounded event : Grounded AnyFault _).frame

theorem reject_keepsFrame (operation : String) (fault : Fault) :
    KeepsFrame (reject operation fault : Turn α) :=
  (reject_grounded operation trivial : Grounded AnyFault (reject operation fault)).frame

theorem reporting_keepsFrame (operation : String) {turn : Turn α} (h : KeepsFrame turn) :
    KeepsFrame (reporting operation turn) :=
  confined_reporting operation h publish_keepsFrame

theorem requireStatus_keepsFrame (status : EngineStatus) (operation : String) :
    KeepsFrame (requireStatus status operation) :=
  .bind confined_engine fun _ => .branch (.throw trivial) (.pure ())

theorem requireGame_keepsFrame (operation : String) : KeepsFrame (requireGame operation) :=
  .bind confined_engine fun _ => .branch (reject_keepsFrame _ _) (.pure ())

theorem onStage_keepsFrame {action : Action α} (h : InFront action) : KeepsFrame (onStage action) :=
  (onStage_grounded h rfl).frame

theorem useItem_keepsFrame (id : Document) : KeepsFrame (useItem id) := by
  refine reporting_keepsFrame _ (.bind (requireStatus_keepsFrame _ _) fun _ => ?_)
  refine .bind (onStage_keepsFrame (Inventory.useItem_inFront id)) fun use => ?_
  refine .branch ?_ (.pure use)
  refine .bind (onStage_keepsFrame (takeEffect_inFront use)) fun _ => ?_
  exact .bind checkAchievements_grounded.frame fun _ => .pure use

theorem interact_keepsFrame (character kind : Document) : KeepsFrame (interact character kind) := by
  refine reporting_keepsFrame _ (.bind (requireStatus_keepsFrame _ _) fun _ => ?_)
  refine .bind confined_engine fun engine => ?_
  refine .bind (onStage_grounded (interact_keeps _ _ _) trivial).frame fun _ => ?_
  exact .bind (.modify fun _ => rfl) fun _ => .pure _

theorem applyBundle_keepsFrame (effect : Document) : KeepsFrame (applyBundle effect) := by
  refine .branch (.pure []) (.bind confined_world fun world => ?_)
  refine .bind (.modify fun _ => rfl) fun _ => ?_
  refine .bind (confined_lift (Result.anyFault _)) fun bundle => ?_
  exact onStage_keepsFrame bundle.process_inFront

theorem manualSave_keepsFrame (name : Document) : KeepsFrame (manualSave name) :=
  .bind (requireGame_keepsFrame _) fun _ =>
    .tryCatch (save_grounded name false).frame fun _ _ => reject_keepsFrame _ _

theorem listSlots_keepsFrame : KeepsFrame listSlots := by
  refine .bind confined_world fun world => ?_
  split
  · exact .pure _
  · exact .branch (.bind (publish_keepsFrame _) fun _ => .throw trivial) (.throw trivial)

end Turn

namespace Operation

/-- What is done to a player, a store or the world, and to nothing else. -/
def isQuiet : Operation → Bool
  | useItem _ | interact .. | applyBundle _ | autosave | manualSave _ | listSlots | outside _ =>
    true
  | _ => false

theorem keepsFrame_of_isQuiet {operation : Operation} (quiet : operation.isQuiet = true) :
    Turn.KeepsFrame operation.turn := by
  cases operation with
  | useItem item => exact .bind (Turn.useItem_keepsFrame item) fun _ => .pure ()
  | interact character kind =>
    exact .bind (Turn.interact_keepsFrame character kind) fun _ => .pure ()
  | applyBundle effect => exact .bind (Turn.applyBundle_keepsFrame effect) fun _ => .pure ()
  | autosave =>
    have saves : Turn.Grounded AnyFault Turn.autosave := Turn.autosave_grounded
    exact .bind saves.frame fun _ => .pure ()
  | manualSave name => exact .bind (Turn.manualSave_keepsFrame name) fun _ => .pure ()
  | listSlots => exact .bind Turn.listSlots_keepsFrame fun _ => .pure ()
  | outside world => exact .modify fun _ => rfl
  | wake | begin _ | pause | resume | shutdown | choose _ | navigate _ | updateSettings _
  | pass _ =>
    cases quiet

end Operation

/-! ## Turns that change it -/

namespace Sitting

variable (s : Sitting)

theorem step_of_isQuiet {operation : Operation} (quiet : operation.isQuiet = true) :
    (s.step operation).frame = s.frame :=
  (Operation.keepsFrame_of_isQuiet quiet).keeps s

def woken : Sitting :=
  { s with engine := { s.engine with status := .initialized } }

def halted : Sitting :=
  { s with engine := { s.engine with status := .paused }.stopTimers }

/-- The sitting once its engine was shut down. -/
def gone : Sitting :=
  { s with engine := { s.engine with
      state := none, delayed := none, timers := [], status := .uninitialized }.resetScene }

/-- The sitting with other settings of its game. -/
def adjusted (changes : Fields) : Sitting :=
  { s with engine := { s.engine with state := s.engine.state.map fun state =>
      { state with settings := state.settings.changeAll changes } } }

theorem frame_of_wake : (s.step .wake).frame = s.frame ∨
    s.engine.status = .uninitialized ∧ (s.step .wake).frame = s.woken.frame := by
  unfold step Operation.turn Turn.wake
  rw [after, outcome_bind_of_ok (Turn.outcome_engine s)]
  split
  · rename_i asleep
    exact .inr ⟨asleep, rfl⟩
  · exact .inl rfl

theorem frame_of_pause : (s.step .pause).frame = s.frame ∨
    s.engine.status = .running ∧ (s.step .pause).frame = s.halted.frame := by
  unfold step Operation.turn Turn.pauseGame
  rw [after, outcome_bind_of_ok (Turn.outcome_engine s)]
  split
  · by_cases running : s.engine.status = .running
    · rw [outcome_bind_of_ok (Turn.outcome_requireStatus_of_eq running _)]
      exact .inr ⟨running, rfl⟩
    · rw [outcome_bind_of_error (Turn.outcome_requireStatus_of_ne running _)]
      exact .inl rfl
  · exact .inl rfl

theorem frame_of_resume : (s.step .resume).frame = s.frame ∨
    s.engine.status = .paused ∧ (s.step .resume).frame = s.begun.frame := by
  unfold step Operation.turn Turn.resumeGame
  rw [after, outcome_bind_of_ok (Turn.outcome_engine s)]
  split
  · by_cases paused : s.engine.status = .paused
    · rw [outcome_bind_of_ok (Turn.outcome_requireStatus_of_eq paused _)]
      exact .inr ⟨paused, rfl⟩
    · rw [outcome_bind_of_error (Turn.outcome_requireStatus_of_ne paused _)]
      exact .inl rfl
  · exact .inl rfl

theorem frame_of_shutdown : (s.step .shutdown).frame = s.gone.frame := by
  unfold step Operation.turn Turn.shutdown
  rw [after, outcome_bind_of_ok (Turn.outcome_stopTimers s)]
  rw [outcome_bind_of_ok (Turn.outcome_engine _)]
  split <;> rfl

theorem scenery_of_shutdown : (s.step .shutdown).scenery = s.gone.scenery :=
  congrArg Prod.fst s.frame_of_shutdown

/-- Whether one of the settings is among the changes that timers depend on. -/
def retimes (changes : Fields) : Bool :=
  (changes.map Prod.fst).any Turn.timingSettings.contains

theorem outcome_adjust (changes : Fields) :
    outcome (Turn.modifyState fun state =>
      { state with settings := state.settings.changeAll changes }) s =
        (.ok (), s.adjusted changes) :=
  rfl

theorem outcome_startTimers_of_running {s : Sitting} (running : s.engine.status = .running) :
    outcome Turn.startTimers s = (.ok (), s.begun) := by
  have same : { s.engine with status := .running } = s.engine := by rw [← running]
  unfold begun
  rw [same]
  rfl

theorem outcome_requireGame_of_some {s : Sitting} {state : GameState}
    (h : s.engine.state = some state) (operation : String) :
    outcome (Turn.requireGame operation) s = (.ok (), s) := by
  unfold Turn.requireGame
  rw [outcome_bind_of_ok (Turn.outcome_engine s), h]
  rfl

/-- The sitting once settings were changed, before that is announced. -/
def retimed (changes : Fields) : Sitting :=
  if s.engine.status = .running ∧ retimes changes = true then
    (s.adjusted changes).stopped.begun
  else s.adjusted changes

theorem outcome_putSettings (changes : Fields) :
    outcome (Turn.putSettings changes) s = outcome Turn.tellSettings (s.retimed changes) := by
  unfold Turn.putSettings retimed
  rw [outcome_bind_of_ok (s.outcome_adjust changes), outcome_bind_of_ok (Turn.outcome_engine _)]
  have status : (s.adjusted changes).engine.status = s.engine.status := rfl
  rw [status]
  by_cases restarts : s.engine.status = .running ∧ retimes changes = true
  · have both : (decide (s.engine.status = .running) &&
        (changes.map Prod.fst).any Turn.timingSettings.contains) = true := by
      rw [Bool.and_eq_true, decide_eq_true_iff]
      exact restarts
    have running : (s.adjusted changes).stopped.engine.status = .running := restarts.1
    rw [if_pos both, if_pos restarts, outcome_bind_of_ok (Turn.outcome_stopTimers _)]
    rw [outcome_bind_of_ok (outcome_startTimers_of_running running)]
    rfl
  · have notBoth : ¬ (decide (s.engine.status = .running) &&
        (changes.map Prod.fst).any Turn.timingSettings.contains) = true := by
      rw [Bool.and_eq_true, decide_eq_true_iff]
      exact restarts
    rw [if_neg notBoth, if_neg restarts]
    rfl

/-- Settings are changed for a game only, and only by their names. -/
theorem frame_of_updateSettings (changes : Fields) :
    (s.step (.updateSettings changes)).frame = s.frame ∨
    (s.step (.updateSettings changes)).frame =
      if s.engine.status = .running ∧ retimes changes = true then
        (s.adjusted changes).stopped.begun.frame
      else (s.adjusted changes).frame := by
  have left : s.step (.updateSettings changes) = after (Turn.updateSettings changes) s :=
    Turn.after_discard _ s
  have told : Turn.KeepsFrame Turn.tellSettings :=
    .bind (Turn.confined_state trivial) fun _ => .bind (Turn.publish_keepsFrame _) fun _ => .pure _
  rw [left, after, Turn.updateSettings_eq]
  cases isState : s.engine.state with
  | none =>
    left
    unfold Turn.requireGame
    rw [outcome_bind, outcome_bind_of_ok (Turn.outcome_engine s), isState]
    rfl
  | some state =>
    rw [outcome_bind_of_ok (outcome_requireGame_of_some isState _)]
    dsimp only
    split
    · left
      rfl
    · right
      rw [outcome_putSettings]
      refine (told.keeps _).trans ?_
      unfold retimed
      split <;> rfl

end Sitting

end InteractiveFiction
