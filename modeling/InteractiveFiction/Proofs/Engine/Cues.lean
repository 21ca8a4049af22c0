import InteractiveFiction.Proofs.Effect.Cues
import InteractiveFiction.Proofs.Engine.Record

/-!
Runs of engines that differ in their sinks only.

* `Sitting.Agrees`: sittings that differ in their sinks, and in what was published as far as that
  agrees.
* `Deaf turn`: on sittings that agree the turn gives the same, and leaves them in agreement.
* `Operation.Answer`, `Operation.ask`: what is told to whoever does something with an engine.
* `Sitting.snapshots`: what can be seen of an engine after each operation of a run.

Runs of the same operations from the same start look the same whatever the sinks do, and all that is
answered or announced agrees (`runs_agree_across_sinks`).
-/

set_option autoImplicit false

namespace InteractiveFiction

open Course

/-! ## Sittings -/

/-- The engine with another sink and other events. -/
abbrev Engine.retuned (engine : Engine) (audio : AudioSink) (published : List EventRecord) : Engine :=
  { engine with audio, published }

namespace Engine

variable {e : Engine} {audio : AudioSink} {published : List EventRecord} (elapsed : Float)

theorem arm_retuned :
    (e.retuned audio published).arm elapsed = (e.arm elapsed).retuned audio published := by
  unfold arm
  dsimp only
  cases e.delayed with
  | none => rfl
  | some delayed =>
    have armed : (e.retuned audio published).isArmed = e.isArmed := rfl
    dsimp only
    rw [armed]
    split
    · rfl
    · rfl

theorem startAutosave_retuned :
    (e.retuned audio published).startAutosave elapsed =
      (e.startAutosave elapsed).retuned audio published := by
  unfold startAutosave
  dsimp only
  cases e.state.bind autosaveInterval? with
  | none => rfl
  | some interval => rfl

theorem startTimers_retuned :
    (e.retuned audio published).startTimers elapsed =
      (e.startTimers elapsed).retuned audio published := by
  have playtime : (e.retuned audio published).startPlaytime elapsed =
      (e.startPlaytime elapsed).retuned audio published := rfl
  have saves : ((e.startPlaytime elapsed).retuned audio published).savesItself =
      (e.startPlaytime elapsed).savesItself := rfl
  unfold startTimers
  dsimp only
  rw [playtime, saves]
  split
  · rw [startAutosave_retuned, arm_retuned]
  · rw [arm_retuned]

end Engine

inductive Sitting.Agrees : Sitting → Sitting → Prop where
  | intro {world : World} {engine : Engine} {audio : AudioSink} {published : List EventRecord}
      (agree : List.Forall₂ EventRecord.Agrees engine.published published) :
      Agrees ⟨world, engine⟩ ⟨world, engine.retuned audio published⟩

/-- Choices that were made alike, with outcomes that agree. -/
inductive ChoiceOutcome.Agrees : ChoiceOutcome → ChoiceOutcome → Prop where
  | intro {choice : ChoiceResult} {effects others : List Outcome} {scene : Option PresentedScene}
      {ended : Bool} (agree : List.Forall₂ Outcome.Agrees effects others) :
      Agrees { choice, effects, scene, ended } { choice, effects := others, scene, ended }

inductive Commitment.Agrees : Commitment → Commitment → Prop where
  | intro {choice : Choice} {result : ChoiceResult} {before : GameState}
      {effects others : List Outcome} (agree : List.Forall₂ Outcome.Agrees effects others) :
      Agrees { choice, result, before, effects } { choice, result, before, effects := others }

theorem Commitment.Agrees.target {commitment other : Commitment} (h : commitment.Agrees other) :
    commitment.target = other.target := by
  cases h with
  | intro agree => exact congrArg (Option.getD · _) (Outcome.teleportTarget_of_agrees agree)

/-- A turn that does the same whatever the sink does. -/
abbrev Deaf {α : Type} (turn : Turn α) : Prop :=
  Tracks Sitting.Agrees turn turn

namespace Turn

variable {α β : Type}

/-- What an engine is asked for must not be its sink or its events. -/
theorem engine_agrees {val : α → β → Prop} {f : Engine → Turn α} {f' : Engine → Turn β}
    (h : ∀ (e : Engine) audio published,
      Matches Sitting.Agrees val (f e) (f' (e.retuned audio published))) :
    Matches Sitting.Agrees val (engine >>= f) (engine >>= f') := by
  refine .get fun s t agrees => ?_
  cases agrees with
  | intro agree => exact h _ _ _

theorem deaf_engine {f : Engine → Turn α}
    (h : ∀ (e : Engine) audio published, Tracks Sitting.Agrees (f e) (f (e.retuned audio published))) :
    Deaf (engine >>= f) :=
  .of_matching (engine_agrees fun e audio published => (h e audio published).matching)

theorem deaf_world : Deaf world :=
  .intro fun s t agrees => ⟨.ok s.world, s, t, rfl, by cases agrees; rfl, agrees⟩

theorem deaf_now : Deaf now :=
  .bind deaf_world fun _ => .pure _

theorem deaf_lift (r : Result α) : Deaf (liftM r : Turn α) :=
  .intro fun s t agrees => ⟨r, s, t, outcome_lift r s, outcome_lift r t, agrees⟩

/-- A change of an engine that does not look at the sink or the events, and leaves them. -/
theorem deaf_modifyEngine {change : Engine → Engine}
    (h : ∀ (e : Engine) audio published,
      change (e.retuned audio published) = (change e).retuned audio published) :
    Deaf (modifyEngine change) := by
  refine .modify fun s t agrees => ?_
  cases agrees with
  | @intro _ e audio published agree =>
    have kept : (change e).published = e.published :=
      (congrArg Engine.published (h e e.audio e.published) :)
    dsimp only
    rw [h e audio published]
    refine .intro ?_
    rw [kept]
    exact agree

theorem deaf_modifyWorld (change : World → World) : Deaf (modifyWorld change) := by
  refine .modify fun s t agrees => ?_
  cases agrees with
  | intro agree => exact .intro agree

theorem deaf_publish (event : Event) : Deaf (publish event) := by
  refine .bind deaf_now fun now => .modify fun s t agrees => ?_
  cases agrees with
  | intro agree => exact .intro (EventRecord.agrees_concat agree (.same event) now)

theorem deaf_play (call : AudioCall) : Deaf (play call) :=
  deaf_modifyEngine fun _ _ _ => rfl

theorem deaf_state : Deaf state := by
  refine deaf_engine fun e _ _ => ?_
  dsimp only
  cases e.state with
  | none => exact .throw _
  | some state => exact .pure state

theorem deaf_modifyState (change : GameState → GameState) : Deaf (modifyState change) :=
  deaf_modifyEngine fun _ _ _ => rfl

/-! ## Actions on the stage -/

theorem onStage_agrees {val : α → β → Prop} {action : Action α} {action' : Action β}
    (h : Matches Stage.Agrees val action action') :
    Matches Sitting.Agrees val (onStage action) (onStage action') := by
  intro s t agrees
  cases agrees with
  | @intro world e audio published agree =>
    cases playing : e.state with
    | none =>
      rw [result, after, result, after, outcome_onStage_of_none playing,
        outcome_onStage_of_none (s := ⟨world, e.retuned audio published⟩) playing]
      exact ⟨.error _, .intro agree⟩
    | some state =>
      obtain ⟨alike, agrees⟩ := h (Sitting.stage ⟨world, e⟩ state)
        (Sitting.stage ⟨world, e.retuned audio published⟩ state) (.intro rfl agree)
      rw [result, after, result, after, outcome_onStage_of_some playing,
        outcome_onStage_of_some (s := ⟨world, e.retuned audio published⟩) playing]
      refine ⟨alike, ?_⟩
      generalize after action (Sitting.stage ⟨world, e⟩ state) = left, after action' _ = left'
        at agrees ⊢
      cases agrees with
      | intro _ agree => exact .intro agree

theorem deaf_onStage {action : Action α} (h : Blind Stage.Agrees action) : Deaf (onStage action) :=
  .of_matching (onStage_agrees h.matching)

/-! ## Faults -/

theorem deaf_report (operation : String) (fault : Fault) : Deaf (report operation fault) :=
  deaf_publish _

theorem deaf_reject (operation : String) (fault : Fault) :
    Deaf (reject operation fault : Turn α) :=
  .bind (deaf_report operation fault) fun _ => .throw fault

theorem reporting_agrees {val : α → β → Prop} {turn : Turn α} {turn' : Turn β} (operation : String)
    (h : Matches Sitting.Agrees val turn turn') :
    Matches Sitting.Agrees val (reporting operation turn) (reporting operation turn') := by
  refine .tryCatch h fun fault => ?_
  exact .branch (.bind_of_tracks (deaf_report operation fault) fun _ => .throw fault) (.throw fault)

theorem deaf_reporting {turn : Turn α} (operation : String) (h : Deaf turn) :
    Deaf (reporting operation turn) :=
  .of_matching (reporting_agrees operation h.matching)

theorem deaf_requireStatus (status : EngineStatus) (operation : String) :
    Deaf (requireStatus status operation) :=
  deaf_engine fun _ _ _ => .branch (.throw _) (.pure _)

theorem deaf_requireInitialized (operation : String) : Deaf (requireInitialized operation) :=
  deaf_engine fun _ _ _ => .branch (deaf_reject _ _) (.pure _)

theorem deaf_requireGame (operation : String) : Deaf (requireGame operation) :=
  deaf_engine fun _ _ _ => .branch (deaf_reject _ _) (.pure _)

/-! ## Saving -/

theorem deaf_setLastSaved (lastSaved : Document) : Deaf (setLastSaved lastSaved) :=
  deaf_modifyState _

theorem deaf_save (name : Document) (autosave : Bool) : Deaf (save name autosave) := by
  refine .bind deaf_state fun state => .bind deaf_now fun now => ?_
  refine .bind (deaf_setLastSaved _) fun _ => .bind (deaf_modifyState _) fun _ => ?_
  refine .bind deaf_world fun world => .bind deaf_state fun marked => ?_
  refine .bind (deaf_modifyWorld _) fun _ => ?_
  dsimp only
  split
  · exact .bind (deaf_publish _) fun _ => .pure _
  · exact .bind (deaf_setLastSaved _) fun _ => .throw _

theorem deaf_autosave : Deaf autosave := by
  refine deaf_engine fun e _ _ => .branch ?_ (.pure false)
  exact .tryCatch (.bind (deaf_save _ _) fun _ => .pure true) fun fault =>
    .bind (deaf_report _ fault) fun _ => .pure false

theorem deaf_manualSave (name : Document) : Deaf (manualSave name) :=
  .bind (deaf_requireGame _) fun _ => .tryCatch (deaf_save _ _) fun fault => deaf_reject _ fault

theorem deaf_listSlots : Deaf listSlots := by
  refine .bind deaf_world fun world => ?_
  split
  · exact .pure _
  · exact .branch (.bind (deaf_report _ _) fun _ => .throw _) (.throw _)

/-! ## Timers -/

theorem deaf_startTimers : Deaf startTimers :=
  .bind deaf_world fun world => deaf_modifyEngine fun _ _ _ => Engine.startTimers_retuned world.elapsed

theorem deaf_stopTimers : Deaf stopTimers :=
  deaf_modifyEngine fun _ _ _ => rfl

/-! ## Entering scenes -/

theorem deaf_updateProgress : Deaf updateProgress := by
  refine .bind deaf_state fun state => deaf_engine fun e _ _ => ?_
  refine .bind (deaf_lift _) fun total => .bind (deaf_lift _) fun visited => .branch ?_ (.pure _)
  exact .bind (deaf_modifyState _) fun _ => deaf_publish _

theorem deaf_unlock (achievement : Achievement) : Deaf (unlock achievement) := by
  refine .bind (deaf_modifyState _) fun _ => .bind (deaf_publish _) fun _ => ?_
  exact .bind deaf_state fun state => .branch (deaf_play _) (.pure _)

theorem deaf_checkAchievements : Deaf checkAchievements := by
  refine deaf_engine fun e _ _ => .bind deaf_state fun state => .bind (deaf_lift _) fun known => ?_
  refine .bind (.forIn _ _ fun achievement _ _ => ?_) fun _ => .pure _
  refine .bind deaf_state fun state => .branch ?_ (.pure _)
  refine .bind deaf_now fun now => .bind (deaf_lift _) fun holds => .branch ?_ (.pure _)
  exact .bind (deaf_unlock achievement) fun _ => .pure _

theorem deaf_findScene (id : Document) (mode : EntryMode) : Deaf (findScene id mode) := by
  refine .bind deaf_state fun state => deaf_engine fun e _ _ => .bind (deaf_lift _) fun scene => ?_
  refine .branch ?_ (.pure _)
  exact .bind deaf_now fun now => .bind (deaf_lift _) fun accessible =>
    .branch (.throw _) (.pure _)

theorem deaf_prepareScene (scene : Scene) : Deaf (prepareScene scene) := by
  have renders : ∀ content, Deaf (renderScene content scene) := fun content =>
    .bind deaf_state fun _ => .bind deaf_now fun _ => .bind (deaf_lift _) fun _ =>
      .bind (deaf_lift _) fun _ => .pure _
  refine deaf_engine fun e _ _ => .bind deaf_state fun state => .bind (deaf_lift _) fun cast => ?_
  refine .bind (deaf_modifyEngine fun _ _ _ => rfl) fun _ => .bind deaf_state fun state => ?_
  exact .branch (.bind (deaf_play _) fun _ => renders _) (renders _)

theorem deaf_arrive (id : Document) (mode : EntryMode) (scene : Scene) :
    Deaf (arrive id mode scene) := by
  have moves : Deaf (moveTo id mode) :=
    .bind (deaf_modifyEngine fun _ _ _ => rfl) fun _ => .bind (deaf_modifyState _) fun _ =>
      .branch (deaf_modifyState _) (.pure _)
  have prepares := deaf_prepareScene scene
  have reaches : Deaf (reach id mode scene) :=
    .bind moves fun _ => .branch
      (.bind_of_matches (onStage_agrees scene.effects.process_agrees) fun _ _ _ => prepares) prepares
  exact .bind reaches fun _ => .bind (deaf_modifyEngine fun _ _ _ => rfl) fun _ => .pure _

theorem deaf_settleIn (id : Document) (mode : EntryMode) (scene : Scene)
    (presented : PresentedScene) : Deaf (settleIn id mode scene presented) := by
  have counts : Deaf (countVisit id presented) :=
    .bind deaf_updateProgress fun _ => .bind deaf_checkAchievements fun _ => deaf_publish _
  refine .bind counts fun _ => .branch (.bind deaf_world fun world => ?_) (.pure _)
  refine .bind (deaf_modifyEngine fun e _ _ => ?_) fun _ => .pure _
  exact Engine.arm_retuned (e := { e with delayed := scene.timeEffects }) world.elapsed

theorem deaf_enterScene (id : Document) (mode : EntryMode) : Deaf (enterScene id mode) := by
  have sweeps : Deaf sweep :=
    .bind deaf_now fun now => deaf_onStage (TimedEffect.expire_blind now)
  rw [enterScene_eq]
  refine .bind (.bind sweeps fun _ => deaf_findScene id mode) fun scene => ?_
  exact .bind (deaf_arrive id mode scene) fun presented => deaf_settleIn id mode scene presented

/-! ## The life of an engine -/

theorem deaf_wake : Deaf wake :=
  deaf_engine fun _ _ _ => .branch (deaf_modifyEngine fun _ _ _ => rfl) (.pure _)

theorem deaf_setRunning : Deaf setRunning :=
  .bind (deaf_modifyEngine fun _ _ _ => rfl) fun _ => deaf_startTimers

theorem deaf_startNewGame (story player : Document) : Deaf (startNewGame story player) := by
  have makes : Deaf (newGame story player) := by
    refine deaf_engine fun e _ _ => .bind (deaf_lift _) fun start => ?_
    refine .bind (deaf_modifyWorld _) fun _ => .bind deaf_world fun world => ?_
    exact deaf_engine fun e _ _ => .bind (deaf_modifyEngine fun _ _ _ => rfl) fun _ => .pure _
  refine .bind (deaf_requireInitialized _) fun _ => .bind deaf_stopTimers fun _ => ?_
  refine .bind (deaf_reporting _ (.bind makes fun _ => deaf_enterScene _ _)) fun scene => ?_
  exact .bind deaf_setRunning fun _ => .bind deaf_state fun _ => .bind (deaf_publish _) fun _ => .pure _

theorem deaf_loadGame (slot : String) : Deaf (loadGame slot) := by
  refine .bind (deaf_requireInitialized _) fun _ => .bind deaf_stopTimers fun _ => ?_
  have loads : Deaf (do
      let world ← Turn.world
      let state ← world.store.load world.now slot
      modifyEngine fun engine => { engine with state := some state }.resetScene
      enterScene state.currentSceneId .resume) :=
    .bind deaf_world fun _ => .bind (deaf_lift _) fun _ =>
      .bind (deaf_modifyEngine fun _ _ _ => rfl) fun _ => deaf_enterScene _ _
  refine .bind (deaf_reporting _ loads) fun scene => .bind deaf_setRunning fun _ => ?_
  exact .bind deaf_state fun _ => .bind (deaf_publish _) fun _ => .pure _

theorem deaf_pauseGame : Deaf pauseGame := by
  refine deaf_engine fun _ _ _ => .branch ?_ (.pure _)
  refine .bind (deaf_requireStatus _ _) fun _ => .bind (deaf_modifyEngine fun _ _ _ => rfl) fun _ => ?_
  exact .bind (deaf_play _) fun _ => deaf_publish _

theorem deaf_resumeGame : Deaf resumeGame := by
  refine deaf_engine fun _ _ _ => .branch ?_ (.pure _)
  refine .bind (deaf_requireStatus _ _) fun _ => .bind (deaf_modifyEngine fun _ _ _ => rfl) fun _ => ?_
  exact .bind deaf_startTimers fun _ => .bind (deaf_play _) fun _ => deaf_publish _

theorem deaf_shutdown : Deaf shutdown := by
  have gone : Deaf (modifyEngine fun engine => { engine with
      state := none, delayed := none, status := .uninitialized }.resetScene) :=
    deaf_modifyEngine fun _ _ _ => rfl
  exact .bind deaf_stopTimers fun _ => deaf_engine fun _ _ _ =>
    .branch (.bind (deaf_play _) fun _ => gone) gone

theorem deaf_endGame : Deaf endGame := by
  refine deaf_engine fun _ _ _ => .branch ?_ (.pure _)
  refine .bind (deaf_modifyEngine fun _ _ _ => rfl) fun _ => .bind deaf_checkAchievements fun _ => ?_
  refine .bind (.tryCatch (.bind (deaf_save _ _) fun _ => .pure _) fun _ => deaf_report _ _) fun _ => ?_
  refine .bind (deaf_play _) fun _ => .bind deaf_state fun state => ?_
  exact .bind (deaf_lift _) fun visited => deaf_publish _

/-! ## Choices -/

theorem deaf_accept (id : Document) : Deaf (accept id) := by
  refine deaf_engine fun e _ _ => ?_
  dsimp only
  cases e.scene with
  | none => exact .throw _
  | some scene =>
    dsimp only
    split
    · exact .bind (deaf_lift _) fun _ => .throw _
    · refine .bind deaf_now fun now => .bind deaf_state fun state => .bind (deaf_lift _) fun _ => ?_
      exact .branch (.pure _) (.throw _)

theorem deaf_weigh (id : Document) : Deaf (weigh id) := by
  refine .bind (deaf_accept id) fun accepted => .bind deaf_state fun before => ?_
  refine .branch (deaf_engine fun e _ _ => ?_) (.pure _)
  exact .bind (deaf_lift _) fun _ => .pure _

theorem commit_agrees (id : Document) :
    Matches Sitting.Agrees Commitment.Agrees (commit id) (commit id) := by
  refine .bind_of_tracks (deaf_weigh id) fun weighed => ?_
  refine .bind (onStage_agrees weighed.2.1.effects.process_agrees) fun effects others agree => ?_
  have records : ∀ scene text, Deaf (recordChoice id scene text) := fun _ _ =>
    .bind deaf_now fun _ => deaf_modifyState _
  exact .bind_of_tracks (records _ _) fun _ => .pure (.intro agree)

theorem conclude_agrees (id : Document) {commitment other : Commitment}
    (h : commitment.Agrees other) :
    Matches Sitting.Agrees ChoiceOutcome.Agrees (conclude id commitment) (conclude id other) := by
  have target := h.target
  unfold conclude
  cases h with
  | intro agree =>
    have follows : ∀ target before, Deaf (follow target before) := fun _ _ =>
      .tryCatch (deaf_enterScene _ _) fun _ =>
        .branch (.bind (deaf_modifyState _) fun _ => .throw _) (.throw _)
    dsimp only
    rw [target]
    split
    · refine .bind_of_tracks (follows _ _) fun entered => .bind_of_tracks (deaf_publish _) fun _ => ?_
      exact .pure (.intro agree)
    · refine .bind_of_tracks (deaf_publish _) fun _ => .bind_of_tracks deaf_endGame fun _ => ?_
      exact .pure (.intro agree)

theorem makeChoice_agrees (id : Document) :
    Matches Sitting.Agrees ChoiceOutcome.Agrees (makeChoice id) (makeChoice id) := by
  have resolves : Matches Sitting.Agrees ChoiceOutcome.Agrees (resolveChoice id)
      (resolveChoice id) := by
    rw [resolveChoice_eq]
    exact .bind (commit_agrees id) fun _ _ agrees => conclude_agrees id agrees
  have runs : Matches Sitting.Agrees ChoiceOutcome.Agrees
      (do requireStatus .running "make_choice"; resolveChoice id)
      (do requireStatus .running "make_choice"; resolveChoice id) :=
    .bind_of_tracks (deaf_requireStatus _ _) fun _ => resolves
  refine reporting_agrees _ (engine_agrees fun e _ _ => ?_)
  exact .branch (.bind_of_tracks (.throw _) fun _ => runs) runs

/-! ## Other deeds -/

theorem deaf_navigate (id : Document) : Deaf (navigate id) :=
  deaf_reporting _ (.bind (deaf_requireStatus _ _) fun _ => deaf_enterScene _ _)

theorem takeEffect_agrees (use : ItemUse) :
    Matches Stage.Agrees (List.Forall₂ Outcome.Agrees) use.takeEffect use.takeEffect := by
  unfold ItemUse.takeEffect
  split
  · exact use.effect.process_agrees
  · exact .branch (.bind use.effect.apply_agrees fun _ _ _ => .throw _) (.throw _)

theorem deaf_useItem (id : Document) : Deaf (useItem id) := by
  refine deaf_reporting _ (.bind (deaf_requireStatus _ _) fun _ => ?_)
  refine .bind (deaf_onStage (Inventory.useItem_blind id)) fun use => .branch ?_ (.pure _)
  refine .bind_of_matches (onStage_agrees (takeEffect_agrees use)) fun _ _ _ => ?_
  exact .bind deaf_checkAchievements fun _ => .pure _

theorem deaf_interact (character kind : Document) : Deaf (interact character kind) := by
  refine deaf_reporting _ (.bind (deaf_requireStatus _ _) fun _ => deaf_engine fun e _ _ => ?_)
  refine .bind (deaf_onStage (e.cast.interact_blind character kind)) fun _ => ?_
  exact .bind (deaf_modifyEngine fun _ _ _ => rfl) fun _ => .pure _

theorem deaf_updateSettings (changes : Fields) : Deaf (updateSettings changes) := by
  have told : Deaf tellSettings := .bind deaf_state fun _ => .bind (deaf_publish _) fun _ => .pure _
  have puts : Deaf (putSettings changes) :=
    .bind (deaf_modifyState _) fun _ => deaf_engine fun e _ _ =>
      .branch (.bind deaf_stopTimers fun _ => .bind deaf_startTimers fun _ => told) told
  rw [updateSettings_eq]
  exact .bind (deaf_requireGame _) fun _ => .branch (.bind (deaf_reject _ _) fun _ => puts) puts

theorem applyBundle_agrees (effect : Document) :
    Matches Sitting.Agrees (List.Forall₂ Outcome.Agrees) (applyBundle effect)
      (applyBundle effect) := by
  unfold applyBundle
  split
  · exact .pure .nil
  · refine .bind_of_tracks deaf_world fun world => .bind_of_tracks (deaf_modifyWorld _) fun _ => ?_
    exact .bind_of_tracks (deaf_lift _) fun bundle => onStage_agrees bundle.process_agrees

/-! ## The passing of time -/

theorem deaf_applyDelayed : Deaf applyDelayed := by
  refine deaf_engine fun e _ _ => ?_
  dsimp only
  cases e.delayed with
  | none => exact .pure _
  | some delayed =>
    refine .branch (.bind (deaf_modifyEngine fun _ _ _ => rfl) fun _ => ?_) (.pure _)
    refine .tryCatch ?_ fun fault => .branch (deaf_report _ _) (.pure _)
    exact .bind_of_matches (onStage_agrees delayed.effect.process_agrees) fun _ _ _ =>
      deaf_checkAchievements

theorem deaf_countPlaytime : Deaf countPlaytime := by
  have restarts : Deaf startPlaytime :=
    .bind deaf_world fun _ => deaf_modifyEngine fun _ _ _ => rfl
  exact deaf_engine fun _ _ _ => .branch (.bind (deaf_modifyState _) fun _ => restarts) restarts

theorem deaf_saveByItself : Deaf saveByItself := by
  have restarts : Deaf startAutosave :=
    .bind deaf_world fun world => deaf_modifyEngine fun _ _ _ =>
      Engine.startAutosave_retuned world.elapsed
  exact deaf_engine fun _ _ _ => .branch (.bind deaf_autosave fun _ => restarts) restarts

theorem deaf_fire (timer : Timer) : Deaf (fire timer) := by
  refine .bind (deaf_modifyEngine fun _ _ _ => rfl) fun _ => ?_
  cases timer.kind with
  | playtime => exact deaf_countPlaytime
  | autosave => exact deaf_saveByItself
  | delayedEffects => exact deaf_applyDelayed

theorem deaf_passWithin (time : Float) (fuel : Nat) : Deaf (passWithin time fuel) := by
  induction fuel with
  | zero => exact .pure _
  | succ fuel ih =>
    refine deaf_engine fun e audio published => ?_
    have due : (e.retuned audio published).dueTimer? time = e.dueTimer? time := rfl
    rw [due]
    cases e.dueTimer? time with
    | none => exact .pure _
    | some timer => exact .bind (deaf_modifyWorld _) fun _ => .bind (deaf_fire timer) fun _ => ih

theorem deaf_pass (seconds : Float) : Deaf (pass seconds) := by
  refine .bind deaf_world fun world => deaf_engine fun e _ _ => ?_
  exact .bind (deaf_passWithin _ _) fun _ => deaf_modifyWorld _

end Turn

/-! ## Operations -/

namespace Operation

abbrev Answer : Operation → Type
  | begin _ | navigate _ => PresentedScene
  | choose _ => ChoiceOutcome
  | useItem _ => ItemUse
  | interact _ _ => Interaction
  | updateSettings _ => Settings
  | applyBundle _ => List Outcome
  | autosave => Bool
  | manualSave _ => SaveSlot
  | listSlots => List SaveSlot
  | wake | pause | resume | shutdown | pass _ | outside _ => Unit

/-- Does something with an engine, and gives what is answered. -/
def ask : (operation : Operation) → Turn operation.Answer
  | wake => Turn.wake
  | begin opening => opening.turn
  | pause => Turn.pauseGame
  | resume => Turn.resumeGame
  | shutdown => Turn.shutdown
  | choose choice => Turn.makeChoice choice
  | navigate scene => Turn.navigate scene
  | useItem item => Turn.useItem item
  | interact character kind => Turn.interact character kind
  | updateSettings changes => Turn.updateSettings changes
  | applyBundle effect => Turn.applyBundle effect
  | autosave => Turn.autosave
  | manualSave name => Turn.manualSave name
  | listSlots => Turn.listSlots
  | pass seconds => Turn.pass seconds
  | outside world => Turn.modifyWorld fun _ => world

theorem turn_eq (operation : Operation) :
    operation.turn = (do let _ ← operation.ask) := by
  cases operation with
  | wake | pause | resume | shutdown | pass _ | outside _ => exact (bind_pure_unit).symm
  | _ => rfl

/-- Answers that are the same, the outcomes of sounds and of music apart. -/
def Concurs : (operation : Operation) → operation.Answer → operation.Answer → Prop
  | choose _ => ChoiceOutcome.Agrees
  | applyBundle _ => List.Forall₂ Outcome.Agrees
  | _ => Eq

theorem ask_agrees (operation : Operation) :
    Matches Sitting.Agrees operation.Concurs operation.ask operation.ask := by
  cases operation with
  | wake => exact Turn.deaf_wake.matching
  | begin opening =>
    cases opening with
    | newGame story player => exact (Turn.deaf_startNewGame story player).matching
    | savedGame slot => exact (Turn.deaf_loadGame slot).matching
  | pause => exact Turn.deaf_pauseGame.matching
  | resume => exact Turn.deaf_resumeGame.matching
  | shutdown => exact Turn.deaf_shutdown.matching
  | choose choice => exact Turn.makeChoice_agrees choice
  | navigate scene => exact (Turn.deaf_navigate scene).matching
  | useItem item => exact (Turn.deaf_useItem item).matching
  | interact character kind => exact (Turn.deaf_interact character kind).matching
  | updateSettings changes => exact (Turn.deaf_updateSettings changes).matching
  | applyBundle effect => exact Turn.applyBundle_agrees effect
  | autosave => exact Turn.deaf_autosave.matching
  | manualSave name => exact (Turn.deaf_manualSave name).matching
  | listSlots => exact Turn.deaf_listSlots.matching
  | pass seconds => exact (Turn.deaf_pass seconds).matching
  | outside world => exact (Turn.deaf_modifyWorld fun _ => world).matching

theorem deaf_turn (operation : Operation) : Deaf operation.turn := by
  rw [turn_eq]
  exact .bind_of_matches operation.ask_agrees fun _ _ _ => .pure _

end Operation

/-! ## Runs -/

/-- What can be seen of an engine once something was done with it. -/
structure Snapshot where
  document : Option Document
  status : EngineStatus
  scene : Option PresentedScene
  /-- What the operation failed with. -/
  fault : Option Fault

namespace Sitting

def snapshot (s : Sitting) (operation : Operation) : Snapshot where
  document := (s.step operation).engine.state.map GameState.toDocument
  status := (s.step operation).engine.status
  scene := (s.step operation).engine.scene
  fault := fault? operation.turn s

def snapshots (s : Sitting) : List Operation → List Snapshot
  | [] => []
  | operation :: operations => s.snapshot operation :: (s.step operation).snapshots operations

variable {s t : Sitting}

theorem Agrees.step (h : s.Agrees t) (operation : Operation) :
    (s.step operation).Agrees (t.step operation) :=
  (operation.deaf_turn s t h).2

theorem Agrees.snapshot (h : s.Agrees t) (operation : Operation) :
    s.snapshot operation = t.snapshot operation := by
  have faults : fault? operation.turn s = fault? operation.turn t := by
    rw [fault?, fault?, (operation.deaf_turn s t h).1]
  have next := h.step operation
  unfold Sitting.snapshot
  rw [faults]
  generalize s.step operation = s', t.step operation = t' at next
  cases next
  rfl

theorem Agrees.run (h : s.Agrees t) (operations : List Operation) :
    (s.run operations).Agrees (t.run operations) := by
  induction operations generalizing s t with
  | nil => exact h
  | cons operation operations ih => exact ih (h.step operation)

theorem Agrees.snapshots (h : s.Agrees t) (operations : List Operation) :
    s.snapshots operations = t.snapshots operations := by
  induction operations generalizing s t with
  | nil => rfl
  | cons operation operations ih =>
    exact congrArg₂ List.cons (h.snapshot operation) (ih (h.step operation))

theorem agrees_fresh (world : World) (content : Repository) (config : EngineConfig)
    (audio other : AudioSink) :
    (fresh world content config audio).Agrees (fresh world content config other) :=
  .intro .nil

end Sitting

/-- Whatever two sinks do with their calls, runs of the same operations show the same games,
statuses, scenes and faults after each operation.  They are left in agreement, and so is what is
answered next: the outcomes of sounds and of music may differ, and nothing else. -/
theorem runs_agree_across_sinks (world : World) (content : Repository) (config : EngineConfig)
    (audio other : AudioSink) (operations : List Operation) :
    let s := Sitting.fresh world content config audio
    let t := Sitting.fresh world content config other
    s.snapshots operations = t.snapshots operations ∧
      (s.run operations).Agrees (t.run operations) ∧
      ∀ operation : Operation, Result.Alike operation.Concurs
        (result operation.ask (s.run operations)) (result operation.ask (t.run operations)) := by
  intro s t
  have start : s.Agrees t := Sitting.agrees_fresh world content config audio other
  have last := start.run operations
  exact ⟨start.snapshots operations, last, fun operation => (operation.ask_agrees _ _ last).1⟩

/-- Whether a bell was heard on the pier. -/
def Harbour.bell (audio : AudioSink) : Option (List Bool) :=
  let pier := (Sitting.fresh { now := 1000000.0 } library {} audio).run
    [.wake, .begin (.newGame "ferry" "Ada")]
  (result (Turn.applyBundle (.object [("sound", "bell")])) pier).toOption.map fun outcomes =>
    outcomes.map Outcome.success

example : Harbour.bell {} = some [true] ∧
    Harbour.bell { complaint := fun _ => some "no device" } = some [false] := by
  decide +kernel

end InteractiveFiction
