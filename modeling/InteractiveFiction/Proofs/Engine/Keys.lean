import InteractiveFiction.Proofs.Effect.Expiry
import InteractiveFiction.Proofs.Engine.Unlocked

/-!
Games whose curses and blessings are held under their own keys.

A game that is made has none, and whatever is done in a game keeps them so
(`Sitting.keepsKeys_of_step`); only a game that is loaded may bring others.
So the sweep that begins every entry never fails in a game that was started here
(`Sitting.WellKeyed.sweep_returns`).
-/

set_option autoImplicit false

namespace InteractiveFiction

open Course

namespace Sitting

def WellKeyed (s : Sitting) : Prop :=
  ∀ state, s.engine.state = some state → state.WellKeyed

def KeepsKeys (s t : Sitting) : Prop :=
  s.WellKeyed → t.WellKeyed

instance : Std.Refl KeepsKeys :=
  ⟨fun _ held => held⟩

instance : Trans KeepsKeys KeepsKeys KeepsKeys :=
  ⟨fun h h' held => h' (h held)⟩

theorem KeepsKeys.of_state {s t : Sitting} (h : t.engine.state = s.engine.state) : s.KeepsKeys t := by
  intro held state isState
  exact held state (h ▸ isState)

theorem WellKeyed.sweep_returns {s : Sitting} (h : s.WellKeyed) {state : GameState}
    (isState : s.engine.state = some state) :
    ∃ lapsed t, outcome Turn.sweep s = (.ok lapsed, t) := by
  have keyed : (s.stage state).state.WellKeyed := h state isState
  obtain ⟨lapsed, stage, taken⟩ := TimedEffect.expire_returns keyed s.world.now
  refine ⟨lapsed, s.withStage stage, ?_⟩
  unfold Turn.sweep
  rw [outcome_bind_of_ok (Turn.outcome_now s), Turn.outcome_onStage_of_some isState, result, after,
    taken]

end Sitting

namespace Turn

variable {α : Type}

abbrev KeepsKeys (turn : Turn α) : Prop :=
  Leads Sitting.KeepsKeys turn

/-! ## Primitive turns -/

theorem modifyEngine_keepsKeys {change : Engine → Engine}
    (h : ∀ engine, (change engine).state = engine.state) : KeepsKeys (modifyEngine change) :=
  .modify fun s => .of_state (h s.engine)

theorem untimed_keepsKeys {change : Engine → Engine}
    (h : ∀ engine, (change engine).untimed = engine.untimed) : KeepsKeys (modifyEngine change) :=
  modifyEngine_keepsKeys fun engine => (congrArg Engine.state (h engine) :)

theorem modifyWorld_keepsKeys (change : World → World) : KeepsKeys (modifyWorld change) :=
  .modify fun _ => .of_state rfl

theorem modifyState_keepsKeys {change : GameState → GameState}
    (h : ∀ state : GameState, state.KeepsKeys (change state)) : KeepsKeys (modifyState change) := by
  refine .modify fun s held state isState => ?_
  obtain ⟨before, isBefore, rfl⟩ := Option.map_eq_some_iff.1 isState
  exact h before (held before isBefore)

theorem publish_keepsKeys (event : Event) : KeepsKeys (publish event) :=
  fun _ => .of_state rfl

theorem play_keepsKeys (call : AudioCall) : KeepsKeys (play call) :=
  modifyEngine_keepsKeys fun _ => rfl

theorem onStage_keepsKeys {action : Action α} (h : Moving GameState.KeepsKeys action) :
    KeepsKeys (onStage action) := by
  intro s held
  cases isState : s.engine.state with
  | none =>
    rw [after, outcome_onStage_of_none isState]
    exact held
  | some state =>
    rw [after, outcome_onStage_of_some isState]
    intro left isLeft
    obtain rfl := Option.some.inj isLeft
    exact h (s.stage state) (held state isState)

theorem report_keepsKeys (operation : String) (fault : Fault) :
    KeepsKeys (report operation fault) :=
  publish_keepsKeys _

theorem reject_keepsKeys (operation : String) (fault : Fault) :
    KeepsKeys (reject operation fault : Turn α) :=
  .bind (report_keepsKeys _ _) fun _ => .throw _

theorem reporting_keepsKeys (operation : String) {turn : Turn α} (h : KeepsKeys turn) :
    KeepsKeys (reporting operation turn) :=
  .tryCatch h fun _ => .branch (.bind (report_keepsKeys _ _) fun _ => .throw _) (.throw _)

theorem requireGame_keepsKeys (operation : String) : KeepsKeys (requireGame operation) :=
  .bind (.of_reads confined_engine) fun _ => .branch (reject_keepsKeys _ _) (.pure ())

theorem checkAchievements_keepsKeys : KeepsKeys checkAchievements := by
  refine leads_checkAchievements fun {s} state _ unlocked _ isState _ _ played held left isLeft => ?_
  obtain ⟨before, isBefore, rfl⟩ := Option.map_eq_some_iff.1 isLeft
  exact held before isBefore

/-! ## Entries -/

theorem prepareScene_keepsKeys (scene : Scene) : KeepsKeys (prepareScene scene) := by
  have renders : ∀ content, KeepsKeys (renderScene content scene) := fun content =>
    .bind (.of_reads (confined_state trivial)) fun _ => .bind (.of_reads confined_now) fun _ =>
      .bind (.of_reads (confined_lift (Result.anyFault _))) fun _ =>
        .bind (.of_reads (confined_lift (Result.anyFault _))) fun _ => .pure _
  refine .bind (.of_reads confined_engine) fun engine => ?_
  refine .bind (.of_reads (confined_state trivial)) fun state => ?_
  refine .bind (.of_reads (confined_lift (Result.anyFault _))) fun characters => ?_
  refine .bind (modifyEngine_keepsKeys fun _ => rfl) fun _ => ?_
  refine .bind (.of_reads (confined_state trivial)) fun state => ?_
  exact .branch (.bind (play_keepsKeys _) fun _ => renders _) (renders _)

theorem arrive_keepsKeys (id : Document) (mode : EntryMode) (scene : Scene) :
    KeepsKeys (arrive id mode scene) := by
  have moves : KeepsKeys (moveTo id mode) := by
    refine .bind (modifyEngine_keepsKeys fun _ => rfl) fun _ => ?_
    refine .bind (modifyState_keepsKeys fun _ held => held) fun _ => ?_
    exact .branch (modifyState_keepsKeys fun _ held => held) (.pure ())
  have prepares := prepareScene_keepsKeys scene
  have reaches : KeepsKeys (reach id mode scene) :=
    .bind moves fun _ => .branch
      (.bind (onStage_keepsKeys scene.effects.process_keepsKeys) fun _ => prepares) prepares
  exact .bind reaches fun _ => .bind (modifyEngine_keepsKeys fun _ => rfl) fun _ => .pure _

theorem settleIn_keepsKeys (id : Document) (mode : EntryMode) (scene : Scene)
    (presented : PresentedScene) : KeepsKeys (settleIn id mode scene presented) := by
  have updates : KeepsKeys updateProgress := by
    refine .bind (.of_reads (confined_state trivial)) fun state => ?_
    refine .bind (.of_reads confined_engine) fun engine => ?_
    refine .bind (.of_reads (confined_lift (Result.anyFault _))) fun total => ?_
    refine .bind (.of_reads (confined_lift (Result.anyFault _))) fun visited => ?_
    refine .branch (.bind ?_ fun _ => publish_keepsKeys _) (.pure ())
    exact modifyState_keepsKeys fun _ held => held
  have counts : KeepsKeys (countVisit id presented) :=
    .bind updates fun _ => .bind checkAchievements_keepsKeys fun _ => publish_keepsKeys _
  refine .bind counts fun _ => .branch (.bind (.of_reads confined_world) fun world => ?_) (.pure _)
  refine .bind (modifyEngine_keepsKeys fun engine => ?_) fun _ => .pure _
  exact (congrArg Engine.state
    (Engine.untimed_arm { engine with delayed := scene.timeEffects } world.elapsed) :)

theorem enterScene_keepsKeys (id : Document) (mode : EntryMode) :
    KeepsKeys (enterScene id mode) := by
  have sweeps : KeepsKeys sweep :=
    .bind (.of_reads confined_now) fun now => onStage_keepsKeys (TimedEffect.expire_keepsKeys now)
  rw [enterScene_eq]
  refine .bind (.bind sweeps fun _ => .of_reads (findScene_reads id mode)) fun scene => ?_
  exact .bind (arrive_keepsKeys id mode scene) fun presented => settleIn_keepsKeys id mode scene _

/-! ## Saves -/

theorem save_keepsKeys (name : Document) (autosave : Bool) : KeepsKeys (save name autosave) := by
  have notes : ∀ lastSaved, KeepsKeys (setLastSaved lastSaved) := fun _ =>
    modifyState_keepsKeys fun _ held => held
  refine .bind (.of_reads (confined_state trivial)) fun _ => .bind (.of_reads confined_now) fun now => ?_
  refine .bind (notes _) fun _ => .bind (modifyState_keepsKeys fun _ held => held) fun _ => ?_
  refine .bind (.of_reads confined_world) fun world => ?_
  refine .bind (.of_reads (confined_state trivial)) fun state => ?_
  dsimp only
  refine .bind (modifyWorld_keepsKeys _) fun _ => ?_
  split
  · exact .bind (publish_keepsKeys _) fun _ => .pure _
  · exact .bind (notes _) fun _ => .throw _

theorem autosave_keepsKeys : KeepsKeys autosave := by
  refine .bind (.of_reads confined_engine) fun engine => .branch ?_ (.pure false)
  refine .tryCatch (.bind (save_keepsKeys _ _) fun _ => .pure true) fun fault => ?_
  exact .bind (report_keepsKeys _ _) fun _ => .pure false

/-! ## Choices -/

theorem commit_keepsKeys (id : Document) : KeepsKeys (commit id) := by
  refine .bind (.of_reads (weigh_reads id)) fun weighed => ?_
  refine .bind (onStage_keepsKeys weighed.2.1.effects.process_keepsKeys) fun effects => ?_
  refine .bind (.bind (.of_reads confined_now) fun _ => ?_) fun _ => .pure _
  exact modifyState_keepsKeys fun _ held => held

theorem endGame_keepsKeys : KeepsKeys endGame := by
  refine .bind (.of_reads confined_engine) fun engine => .branch ?_ (.pure ())
  refine .bind (modifyEngine_keepsKeys fun _ => rfl) fun _ => ?_
  refine .bind checkAchievements_keepsKeys fun _ => ?_
  have lastSave : KeepsKeys (do let _ ← save finalSaveName false) :=
    .bind (save_keepsKeys _ _) fun _ => .pure ()
  refine .bind (.tryCatch lastSave fun fault => report_keepsKeys _ _) fun _ => ?_
  refine .bind (play_keepsKeys _) fun _ => .bind (.of_reads (confined_state trivial)) fun state => ?_
  exact .bind (.of_reads (confined_lift (Result.anyFault _))) fun visited => publish_keepsKeys _

theorem conclude_keepsKeys {id : Document} {commitment : Commitment}
    (before : commitment.before.WellKeyed) : KeepsKeys (conclude id commitment) := by
  have follows : KeepsKeys (follow commitment.target commitment.before) := by
    refine .tryCatch (enterScene_keepsKeys _ _) fun fault => ?_
    refine .branch (.bind (modifyState_keepsKeys fun _ _ => before) fun _ => .throw _) (.throw _)
  unfold conclude
  refine .branch (.bind follows fun _ => .bind (publish_keepsKeys _) fun _ => .pure _) ?_
  exact .bind (publish_keepsKeys _) fun _ => .bind endGame_keepsKeys fun _ => .pure _

theorem makeChoice_keepsKeys (id : Document) : KeepsKeys (makeChoice id) := by
  refine reporting_keepsKeys _ (.bind (.of_reads confined_engine) fun engine => ?_)
  have resolves : KeepsKeys (resolveChoice id) := by
    intro s held
    rw [resolveChoice_eq]
    rcases committed : outcome (commit id) s with ⟨r, s₁⟩
    have kept : s₁.WellKeyed := (commit_keepsKeys id).of_outcome committed held
    cases r with
    | error fault =>
      rw [after, outcome_bind_of_error committed]
      exact kept
    | ok commitment =>
      rw [after, outcome_bind_of_ok committed]
      exact conclude_keepsKeys (held _ (commit_ends committed).2) s₁ kept
  have rest : KeepsKeys (do requireStatus .running "make_choice"; resolveChoice id) :=
    .bind (.of_reads (requireStatus_reads _ _)) fun _ => resolves
  exact .branch (.bind (.throw _) fun _ => rest) rest

/-! ## Other deeds -/

theorem takeEffect_keepsKeys (use : ItemUse) : Moving GameState.KeepsKeys use.takeEffect := by
  have applies := Effect.apply_moving use.effect.parts_keepKeys
  unfold ItemUse.takeEffect
  split
  · exact use.effect.process_keepsKeys
  · exact .branch (.bind applies fun _ => .throw _) (.throw _)

theorem useItem_keepsKeys (id : Document) : KeepsKeys (useItem id) := by
  refine reporting_keepsKeys _ (.bind (.of_reads (requireStatus_reads _ _)) fun _ => ?_)
  refine .bind (onStage_keepsKeys (Inventory.useItem_keepsKeys id)) fun use => ?_
  refine .branch (.bind ?_ fun _ => .bind checkAchievements_keepsKeys fun _ => .pure use) (.pure use)
  exact onStage_keepsKeys (takeEffect_keepsKeys use)

theorem interact_keepsKeys (character kind : Document) : KeepsKeys (interact character kind) := by
  have meets : ∀ cast : Cast, Moving GameState.KeepsKeys (cast.interact character kind) := by
    intro cast
    unfold Cast.interact
    split
    · exact .bind (Action.moving_lift _) fun _ => .throw _
    · split
      · exact .throw _
      · refine .bind Action.moving_state fun _ => .bind Action.moving_now fun _ => ?_
        exact .bind (Action.moving_lift _) fun _ => .bind (Action.moving_publish _) fun _ => .pure _
  refine reporting_keepsKeys _ (.bind (.of_reads (requireStatus_reads _ _)) fun _ => ?_)
  refine .bind (.of_reads confined_engine) fun engine => ?_
  refine .bind (onStage_keepsKeys (meets _)) fun _ => ?_
  exact .bind (modifyEngine_keepsKeys fun _ => rfl) fun _ => .pure _

theorem startTimers_keepsKeys : KeepsKeys startTimers :=
  .bind (.of_reads confined_world) fun world => untimed_keepsKeys fun engine =>
    engine.untimed_startTimers world.elapsed

theorem updateSettings_keepsKeys (changes : Fields) : KeepsKeys (updateSettings changes) := by
  have told : KeepsKeys tellSettings :=
    .bind (.of_reads (confined_state trivial)) fun _ => .bind (publish_keepsKeys _) fun _ => .pure _
  have puts : KeepsKeys (putSettings changes) := by
    refine .bind (modifyState_keepsKeys fun _ held => held) fun _ => ?_
    refine .bind (.of_reads confined_engine) fun engine => .branch ?_ told
    refine .bind (modifyEngine_keepsKeys fun _ => rfl) fun _ => ?_
    exact .bind startTimers_keepsKeys fun _ => told
  rw [updateSettings_eq]
  refine .bind (requireGame_keepsKeys _) fun _ => ?_
  exact .branch (.bind (reject_keepsKeys _ _) fun _ => puts) puts

theorem applyBundle_keepsKeys (effect : Document) : KeepsKeys (applyBundle effect) := by
  refine .branch (.pure []) (.bind (.of_reads confined_world) fun world => ?_)
  refine .bind (modifyWorld_keepsKeys _) fun _ => ?_
  refine .bind (.of_reads (confined_lift (Result.anyFault _))) fun bundle => ?_
  exact onStage_keepsKeys bundle.process_keepsKeys

theorem manualSave_keepsKeys (name : Document) : KeepsKeys (manualSave name) :=
  .bind (requireGame_keepsKeys _) fun _ =>
    .tryCatch (save_keepsKeys name false) fun _ => reject_keepsKeys _ _

theorem listSlots_keepsKeys : KeepsKeys listSlots := by
  refine .bind (.of_reads confined_world) fun world => ?_
  split
  · exact .pure _
  · exact .branch (.bind (report_keepsKeys _ _) fun _ => .throw _) (.throw _)

theorem pauseGame_keepsKeys : KeepsKeys pauseGame := by
  refine .bind (.of_reads confined_engine) fun engine => .branch ?_ (.pure ())
  refine .bind (.of_reads (requireStatus_reads _ _)) fun _ => ?_
  refine .bind (modifyEngine_keepsKeys fun _ => rfl) fun _ => ?_
  exact .bind (play_keepsKeys _) fun _ => publish_keepsKeys _

theorem resumeGame_keepsKeys : KeepsKeys resumeGame := by
  refine .bind (.of_reads confined_engine) fun engine => .branch ?_ (.pure ())
  refine .bind (.of_reads (requireStatus_reads _ _)) fun _ => ?_
  refine .bind (modifyEngine_keepsKeys fun _ => rfl) fun _ => ?_
  refine .bind startTimers_keepsKeys fun _ => .bind (play_keepsKeys _) fun _ => publish_keepsKeys _

/-! ## The passing of time -/

theorem fire_keepsKeys (timer : Timer) : KeepsKeys (fire timer) := by
  refine .bind (modifyEngine_keepsKeys fun _ => rfl) fun _ => ?_
  have counts : KeepsKeys countPlaytime := by
    have again : KeepsKeys startPlaytime :=
      .bind (.of_reads confined_world) fun _ => modifyEngine_keepsKeys fun _ => rfl
    refine .bind (.of_reads confined_engine) fun engine => .branch (.bind ?_ fun _ => again) again
    exact modifyState_keepsKeys fun _ held => held
  have saves : KeepsKeys saveByItself := by
    have again : KeepsKeys startAutosave :=
      .bind (.of_reads confined_world) fun world => untimed_keepsKeys fun engine =>
        engine.untimed_startAutosave world.elapsed
    refine .bind (.of_reads confined_engine) fun engine => .branch (.bind ?_ fun _ => again) again
    exact autosave_keepsKeys
  have applies : KeepsKeys applyDelayed := by
    refine .bind (.of_reads confined_engine) fun engine => ?_
    split
    · rename_i delayed _
      refine .branch (.bind (modifyEngine_keepsKeys fun _ => rfl) fun _ => ?_) (.pure ())
      refine .tryCatch (.bind (onStage_keepsKeys delayed.effect.process_keepsKeys) fun _ => ?_)
        fun fault => .branch (report_keepsKeys _ _) (.pure ())
      exact checkAchievements_keepsKeys
    · exact .pure ()
  cases timer.kind with
  | playtime => exact counts
  | autosave => exact saves
  | delayedEffects => exact applies

theorem pass_keepsKeys (seconds : Float) : KeepsKeys (pass seconds) := by
  have within (time : Float) (fuel : Nat) : KeepsKeys (passWithin time fuel) := by
    induction fuel with
    | zero => exact .pure ()
    | succ fuel ih =>
      refine .bind (.of_reads confined_engine) fun engine => ?_
      split
      · refine .bind (modifyWorld_keepsKeys _) fun _ => ?_
        exact .bind (fire_keepsKeys _) fun _ => ih
      · exact .pure ()
  refine .bind (.of_reads confined_world) fun world => .bind (.of_reads confined_engine) fun engine => ?_
  exact .bind (within _ _) fun _ => modifyWorld_keepsKeys _

end Turn

/-! ## Operations and runs -/

namespace Sitting

theorem keepsKeys_of_step {operation : Operation} (stays : operation.staysIn = true)
    (s : Sitting) : s.KeepsKeys (s.step operation) := by
  have keeps : ∀ {turn : Turn Unit}, Turn.KeepsKeys turn → s.KeepsKeys (after turn s) := fun h => h s
  cases operation with
  | wake =>
    refine keeps (.bind (.of_reads Turn.confined_engine) fun engine => .branch ?_ (.pure ()))
    exact Turn.modifyEngine_keepsKeys fun _ => rfl
  | pause => exact keeps Turn.pauseGame_keepsKeys
  | resume => exact keeps Turn.resumeGame_keepsKeys
  | choose id => exact keeps (.bind (Turn.makeChoice_keepsKeys id) fun _ => .pure ())
  | navigate id =>
    refine keeps (.bind (Turn.reporting_keepsKeys _ (.bind ?_ fun _ => ?_)) fun _ => .pure ())
    · exact .of_reads (Turn.requireStatus_reads _ _)
    · exact Turn.enterScene_keepsKeys id {}
  | useItem id => exact keeps (.bind (Turn.useItem_keepsKeys id) fun _ => .pure ())
  | interact character kind =>
    exact keeps (.bind (Turn.interact_keepsKeys character kind) fun _ => .pure ())
  | updateSettings changes =>
    exact keeps (.bind (Turn.updateSettings_keepsKeys changes) fun _ => .pure ())
  | applyBundle effect => exact keeps (.bind (Turn.applyBundle_keepsKeys effect) fun _ => .pure ())
  | autosave => exact keeps (.bind Turn.autosave_keepsKeys fun _ => .pure ())
  | manualSave name => exact keeps (.bind (Turn.manualSave_keepsKeys name) fun _ => .pure ())
  | listSlots => exact keeps (.bind Turn.listSlots_keepsKeys fun _ => .pure ())
  | pass seconds => exact keeps (Turn.pass_keepsKeys seconds)
  | outside world => exact keeps (Turn.modifyWorld_keepsKeys fun _ => world)
  | begin _ | shutdown => cases stays

end Sitting

/-- A game that is opened with its effects under their own keys keeps them so. -/
theorem Opening.wellKeyed_of_turn {opening : Opening} {s t : Sitting} {presented : PresentedScene}
    (opened : outcome opening.turn s = (.ok presented, t)) :
    ∃ state s₁, outcome opening.find s.stopped = (.ok state, s₁) ∧
      (state.WellKeyed → t.WellKeyed) := by
  obtain ⟨state, s₁, s₂, game, found, entered, rfl⟩ := Opening.entered_of_turn opened
  refine ⟨state, s₁, found, fun held => ?_⟩
  have made : (s₁.found state).WellKeyed := by
    intro left isLeft
    obtain rfl := Option.some.inj isLeft
    exact held
  have entry := (Turn.enterScene_keepsKeys _ _).of_outcome entered made
  exact Sitting.KeepsKeys.of_state s₂.state_begun entry

end InteractiveFiction
