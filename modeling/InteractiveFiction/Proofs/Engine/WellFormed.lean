import InteractiveFiction.Proofs.Effect.WellFormed
import InteractiveFiction.Proofs.Engine.Run
import InteractiveFiction.Proofs.Story.WellFormed

/-!
Well-formed engines: the game is well-formed, and so are the stories that were read and every bundle
that waits or is offered, since it comes from them.  The parts of a turn keep an engine so, whatever
of them fails: timers, progress and achievements, entering a scene, saving.
-/

set_option autoImplicit false

namespace InteractiveFiction

open Course

/-- Every choice that is offered brings a well-formed bundle. -/
def PresentedScene.WellFormed (presented : PresentedScene) : Prop :=
  ∀ offered ∈ presented.choices, offered.choice.effects.WellFormed

structure Engine.WellFormed (engine : Engine) : Prop where
  content : engine.content.WellFormed
  state : ∀ state, engine.state = some state → state.WellFormed
  delayed : ∀ delayed, engine.delayed = some delayed → delayed.effect.WellFormed
  scene : ∀ presented, engine.scene = some presented → presented.WellFormed

def Sitting.WellFormed (s : Sitting) : Prop :=
  s.engine.WellFormed

/-! ## Engines -/

namespace Engine.WellFormed

variable {engine : Engine}

theorem of_untimed {engine' : Engine} (h : engine.WellFormed)
    (same : engine'.untimed = engine.untimed) : engine'.WellFormed := by
  have bare : engine.untimed.WellFormed := { h with }
  rw [← same] at bare
  exact { bare with }

theorem withState (h : engine.WellFormed) {state : GameState} (own : state.WellFormed) :
    { engine with state := some state }.WellFormed :=
  { h with
    state := by
      intro state' is
      cases is
      exact own }

theorem resetScene (h : engine.WellFormed) : engine.resetScene.WellFormed :=
  { h with
    scene := by
      intro presented is
      cases is }

end Engine.WellFormed

/-! ## Primitive turns -/

namespace Turn

variable {α : Type} {gives : α → Prop}

theorem upholds_engine : Upholds Sitting.WellFormed Engine.WellFormed Turn.engine :=
  .bind .get fun _ wellFormed => .pure wellFormed

theorem upholds_world : Upholds Sitting.WellFormed Anything Turn.world :=
  .bind .get fun _ _ => .pure trivial

theorem upholds_now : Upholds Sitting.WellFormed Anything Turn.now :=
  .bind upholds_world fun _ _ => .pure trivial

theorem upholds_lift {r : Result α} (h : r.Gives gives) :
    Upholds Sitting.WellFormed gives (liftM r : Turn α) :=
  .of_result (outcome_lift r) h

theorem upholds_free (r : Result α) : Upholds Sitting.WellFormed Anything (liftM r : Turn α) :=
  upholds_lift (.anything r)

theorem upholds_state : Upholds Sitting.WellFormed GameState.WellFormed Turn.state := by
  refine .bind upholds_engine fun engine wellFormed => ?_
  split
  · rename_i state is
    exact .pure (wellFormed.state state is)
  · exact .throw _

theorem upholds_modifyEngine {change : Engine → Engine}
    (h : ∀ engine : Engine, engine.WellFormed → (change engine).WellFormed) :
    Upholds Sitting.WellFormed Anything (modifyEngine change) :=
  .modify fun s => h s.engine

theorem upholds_modifyWorld (change : World → World) :
    Upholds Sitting.WellFormed Anything (modifyWorld change) :=
  .modify fun _ wellFormed => wellFormed

theorem upholds_modifyState {change : GameState → GameState}
    (h : ∀ state : GameState, state.WellFormed → (change state).WellFormed) :
    Upholds Sitting.WellFormed Anything (modifyState change) := by
  refine upholds_modifyEngine fun engine wellFormed => { wellFormed with state := ?_ }
  intro state is
  obtain ⟨old, was, rfl⟩ := Option.map_eq_some_iff.1 is
  exact h old (wellFormed.state old was)

theorem upholds_publish (event : Event) : Upholds Sitting.WellFormed Anything (publish event) :=
  .bind upholds_now fun _ _ => upholds_modifyEngine fun _ wellFormed => { wellFormed with }

theorem upholds_play (call : AudioCall) : Upholds Sitting.WellFormed Anything (play call) :=
  upholds_modifyEngine fun _ wellFormed => { wellFormed with }

theorem upholds_report (operation : String) (fault : Fault) :
    Upholds Sitting.WellFormed Anything (report operation fault) :=
  upholds_publish _

theorem upholds_reject (operation : String) (fault : Fault) :
    Upholds Sitting.WellFormed gives (reject operation fault : Turn α) :=
  .bind (upholds_report _ _) fun _ _ => .throw _

theorem upholds_reporting (operation : String) {turn : Turn α}
    (h : Upholds Sitting.WellFormed gives turn) :
    Upholds Sitting.WellFormed gives (reporting operation turn) := by
  refine .tryCatch h fun fault => ?_
  dsimp only
  split
  · exact .bind (upholds_report _ _) fun _ _ => .throw _
  · exact .throw _

theorem upholds_onStage {action : Action α} (h : Upholds Stage.WellFormed gives action) :
    Upholds Sitting.WellFormed gives (onStage action) := by
  refine .intro fun s wellFormed => ?_
  cases is : s.engine.state with
  | none =>
    rw [outcome_onStage_of_none is]
    exact ⟨wellFormed, nofun⟩
  | some state =>
    rw [outcome_onStage_of_some is]
    have start : (s.stage state).WellFormed := wellFormed.state state is
    obtain ⟨kept, given⟩ := h _ start
    exact ⟨{ wellFormed.withState kept with }, given⟩

theorem upholds_requireStatus (status : EngineStatus) (operation : String) :
    Upholds Sitting.WellFormed Anything (requireStatus status operation) :=
  .bind upholds_engine fun _ _ => .branch (.throw _) (.pure trivial)

theorem upholds_requireInitialized (operation : String) :
    Upholds Sitting.WellFormed Anything (requireInitialized operation) :=
  .bind upholds_engine fun _ _ => .branch (upholds_reject _ _) (.pure trivial)

theorem upholds_requireGame (operation : String) :
    Upholds Sitting.WellFormed Anything (requireGame operation) :=
  .bind upholds_engine fun _ _ => .branch (upholds_reject _ _) (.pure trivial)

/-! ## Timers -/

theorem upholds_setTimers {change : Engine → Float → Engine}
    (same : ∀ engine elapsed, (change engine elapsed).untimed = engine.untimed) :
    Upholds Sitting.WellFormed Anything (do
      let elapsed := (← world).elapsed
      modifyEngine fun engine => change engine elapsed) :=
  .bind upholds_world fun _ _ => upholds_modifyEngine fun engine wellFormed =>
    wellFormed.of_untimed (same engine _)

theorem startTimers_upholds : Upholds Sitting.WellFormed Anything startTimers :=
  upholds_setTimers Engine.untimed_startTimers

theorem stopTimers_upholds : Upholds Sitting.WellFormed Anything stopTimers :=
  upholds_modifyEngine fun _ wellFormed => { wellFormed with }

/-! ## Scenes -/

theorem updateProgress_upholds : Upholds Sitting.WellFormed Anything updateProgress := by
  refine .bind upholds_state fun state _ => .bind upholds_engine fun engine _ => ?_
  refine .bind (upholds_free _) fun total _ => .bind (upholds_free _) fun visited _ => ?_
  refine .branch (.bind (upholds_modifyState fun state wellFormed => ?_) fun _ _ => ?_)
    (.pure trivial)
  case refine_2 => exact upholds_publish _
  exact { wellFormed with }

theorem unlock_upholds (achievement : Achievement) :
    Upholds Sitting.WellFormed Anything (unlock achievement) := by
  refine .bind (upholds_modifyState fun state wellFormed => { wellFormed with }) fun _ _ => ?_
  refine .bind (upholds_publish _) fun _ _ => .bind upholds_state fun state _ => ?_
  exact .branch (upholds_play _) (.pure trivial)

theorem checkAchievements_upholds : Upholds Sitting.WellFormed Anything checkAchievements := by
  refine .bind upholds_engine fun engine _ => .bind upholds_state fun state _ => ?_
  refine .bind (upholds_free _) fun achievements _ => ?_
  refine .bind (.forIn _ _ fun achievement _ _ => ?_) fun _ _ => .pure trivial
  refine .bind upholds_state fun state _ => .branch ?_ (.pure trivial)
  refine .bind upholds_now fun now _ => .bind (upholds_free _) fun holds _ => ?_
  exact .branch (.bind (unlock_upholds achievement) fun _ _ => .pure trivial) (.pure trivial)

theorem presentChoices_gives {now : Instant} {state : GameState} {choices : List Choice}
    (h : ∀ choice ∈ choices, choice.effects.WellFormed) :
    Result.Gives (fun offers : List PresentedChoice =>
      ∀ offered ∈ offers, offered.choice.effects.WellFormed)
      (Scene.presentChoices now state choices) := by
  induction choices with
  | nil =>
    refine .pure fun offered mem => ?_
    cases mem
  | cons choice choices ih =>
    obtain ⟨own, others⟩ := List.forall_mem_cons.1 h
    refine .bind (.anything _) fun visible _ => ?_
    cases visible with
    | false => exact ih others
    | true =>
      have presented : Result.Gives
          (fun offered : PresentedChoice => offered.choice.effects.WellFormed)
          (choice.present state) :=
        .bind (.anything _) fun _ _ => .bind (.anything _) fun _ _ => .pure own
      refine .bind presented fun offered brings => .bind (ih others) fun offers rest => ?_
      exact .pure (List.forall_mem_cons.2 ⟨brings, rest⟩)

theorem renderScene_upholds {content : Repository} (h : content.WellFormed) (scene : Scene) :
    Upholds Sitting.WellFormed (fun rendered => rendered.1.WellFormed)
      (renderScene content scene) := by
  refine .bind upholds_state fun state _ => .bind upholds_now fun now _ => ?_
  refine .bind (upholds_lift (Repository.choices_give h _ _)) fun choices bring => ?_
  have rendered : Result.Gives PresentedScene.WellFormed (scene.render now state choices) :=
    .bind (.anything _) fun _ _ => .bind (.anything _) fun _ _ =>
      .bind (presentChoices_gives bring) fun _ own => .pure own
  exact .bind (upholds_lift rendered) fun _ own => .pure own

theorem prepareScene_upholds (scene : Scene) :
    Upholds Sitting.WellFormed (fun rendered => rendered.1.WellFormed) (prepareScene scene) := by
  refine .bind upholds_engine fun engine wellFormed => .bind upholds_state fun state _ => ?_
  refine .bind (upholds_free _) fun characters _ => ?_
  refine .bind (upholds_modifyEngine fun _ wellFormed => { wellFormed with }) fun _ _ => ?_
  refine .bind upholds_state fun state _ => ?_
  have rendered := renderScene_upholds wellFormed.content scene
  exact .branch (.bind (upholds_play _) fun _ _ => rendered) rendered

theorem moveTo_upholds {id : Document} (present : id.isTruthy = true) (mode : EntryMode) :
    Upholds Sitting.WellFormed Anything (moveTo id mode) := by
  refine .bind (upholds_modifyEngine fun engine wellFormed => ?_) fun _ _ => ?_
  · exact { wellFormed with delayed := by intro delayed is; cases is }
  · refine .bind (upholds_modifyState fun state wellFormed => ?_) fun _ _ => ?_
    · exact { wellFormed with currentSceneId := present }
    · exact .branch (upholds_modifyState fun state wellFormed => { wellFormed with }) (.pure trivial)

theorem arrive_upholds {id : Document} (present : id.isTruthy = true) (mode : EntryMode)
    {scene : Scene} (own : scene.WellFormed) :
    Upholds Sitting.WellFormed Anything (arrive id mode scene) := by
  have reaches : Upholds Sitting.WellFormed (fun rendered => rendered.1.WellFormed)
      (reach id mode scene) := by
    refine .bind (moveTo_upholds present mode) fun _ _ => .branch ?_ (prepareScene_upholds scene)
    exact .bind (upholds_onStage own.effects.process_upholds) fun _ _ => prepareScene_upholds scene
  refine .bind reaches fun rendered shown => .bind (upholds_modifyEngine fun engine wellFormed => ?_)
    fun _ _ => .pure trivial
  refine { wellFormed with scene := fun presented is => ?_ }
  cases is
  exact shown

theorem settleIn_upholds (id : Document) (mode : EntryMode) {scene : Scene}
    (own : scene.WellFormed) (presented : PresentedScene) :
    Upholds Sitting.WellFormed Anything (settleIn id mode scene presented) := by
  have counts : Upholds Sitting.WellFormed Anything (countVisit id presented) :=
    .bind updateProgress_upholds fun _ _ => .bind checkAchievements_upholds fun _ _ =>
      upholds_publish _
  refine .bind counts fun _ _ => .branch ?_ (.pure trivial)
  refine .bind upholds_world fun world _ => .bind (upholds_modifyEngine fun engine wellFormed => ?_)
    fun _ _ => .pure trivial
  have waiting : { engine with delayed := scene.timeEffects }.WellFormed :=
    { wellFormed with delayed := own.timeEffects }
  exact waiting.of_untimed (Engine.untimed_arm _ _)

theorem approach_upholds (id : Document) (mode : EntryMode) :
    Upholds Sitting.WellFormed (fun scene => scene.id = id ∧ scene.WellFormed) (approach id mode) := by
  have sweeps : Upholds Sitting.WellFormed Anything sweep :=
    .bind upholds_now fun now _ => upholds_onStage (TimedEffect.expire_upholds now)
  refine .bind sweeps fun _ _ => .bind upholds_state fun state _ => ?_
  refine .bind upholds_engine fun engine wellFormed => ?_
  refine .bind (upholds_lift (Repository.scene_gives wellFormed.content _ id)) fun scene own => ?_
  refine .branch (.bind upholds_now fun now _ => ?_) (.pure own)
  exact .bind (upholds_free _) fun accessible _ => .branch (.of_throw _ _) (.pure own)

theorem enterScene_upholds (id : Document) (mode : EntryMode) :
    Upholds Sitting.WellFormed Anything (enterScene id mode) := by
  rw [enterScene_eq]
  refine .bind (approach_upholds id mode) fun scene own => ?_
  have present : id.isTruthy = true := by
    rw [← own.1]
    exact own.2.id
  exact .bind (arrive_upholds present mode own.2) fun presented _ => settleIn_upholds _ _ own.2 _

/-! ## Saving -/

theorem setLastSaved_upholds (lastSaved : Document) :
    Upholds Sitting.WellFormed Anything (setLastSaved lastSaved) :=
  upholds_modifyState fun _ wellFormed => { wellFormed with }

theorem save_upholds (name : Document) (autosave : Bool) :
    Upholds Sitting.WellFormed Anything (save name autosave) := by
  refine .bind upholds_state fun previous _ => .bind upholds_now fun now _ => ?_
  refine .bind (setLastSaved_upholds _) fun _ _ => ?_
  refine .bind (upholds_modifyState fun state wellFormed => ?_) fun _ _ => ?_
  · exact { wellFormed with lastModified := Timestamp.isTruthy_text now }
  · refine .bind upholds_world fun world _ => .bind upholds_state fun state _ => ?_
    dsimp only
    refine .bind (upholds_modifyWorld _) fun _ _ => ?_
    split
    · exact .bind (upholds_publish _) fun _ _ => .pure trivial
    · exact .bind (setLastSaved_upholds _) fun _ _ => .throw _

theorem autosave_upholds : Upholds Sitting.WellFormed Anything autosave := by
  refine .bind upholds_engine fun engine _ => .branch ?_ (.pure trivial)
  have saves : Upholds Sitting.WellFormed Anything (do let _ ← save "Autosave" true; pure true) :=
    .bind (save_upholds _ _) fun _ _ => .pure trivial
  exact .tryCatch saves fun fault => .bind (upholds_report _ _) fun _ _ => .pure trivial

end Turn

end InteractiveFiction
