import InteractiveFiction.Proofs.Engine.Books
import InteractiveFiction.Proofs.Engine.Waiting
import InteractiveFiction.Proofs.Story.Resemblance

/-!
What is done with an engine does the same whatever the books of its game say.

Scenes are entered, choices made and items used alike (`Operation.turn_abreast`), and timers of play
go off alike (`Sitting.Akin.fire`).  A timer that saves leaves the sitting akin to what it was
(`Sitting.akin_fire`).  Only a game that is loaded may be another one.
-/

set_option autoImplicit false

namespace InteractiveFiction

open Course

/-- Choices that were made alike, in games that differ in their books. -/
inductive Commitment.Akin : Commitment → Commitment → Prop where
  | intro {choice : Choice} {result : ChoiceResult} {before : GameState} {effects : List Outcome}
      (books : Books) :
      Akin { choice, result, before, effects }
        { choice, result, before := before.booked books, effects }

namespace Turn

/-! ## Entering scenes -/

theorem bookless_updateProgress : Bookless updateProgress := by
  refine bookless_state (fun _ _ => rfl) fun state => ?_
  refine bookless_engine (fun _ _ _ _ => rfl) fun e => ?_
  refine .bind (bookless_lift _) fun total => .bind (bookless_lift _) fun visited => ?_
  refine .branch ?_ (.pure _)
  exact .bind (bookless_modifyState (.of_commutes fun _ _ => rfl)) fun _ => bookless_publish _ _

theorem bookless_unlock (achievement : Achievement) : Bookless (unlock achievement) := by
  refine .bind (bookless_modifyState (.of_commutes fun _ _ => rfl)) fun _ => ?_
  refine .bind (bookless_publish _ _) fun _ => bookless_state (fun _ _ => rfl) fun state => ?_
  exact .branch (bookless_play _) (.pure _)

theorem bookless_checkAchievements : Bookless checkAchievements := by
  refine bookless_engine (fun _ _ _ _ => rfl) fun e => ?_
  refine bookless_state (fun _ _ => rfl) fun state => ?_
  refine .bind (bookless_lift _) fun known => ?_
  refine .bind (.forIn _ _ fun achievement _ _ => ?_) fun _ => .pure _
  refine bookless_state (fun state books => ?_) fun state => ?_
  · simp only [← (state.resembles_booked books).evaluate]
    rfl
  · refine .branch (.bind bookless_now fun now => ?_) (.pure _)
    refine .bind (bookless_lift _) fun holds => ?_
    exact .branch (.bind (bookless_unlock achievement) fun _ => .pure _) (.pure _)

theorem bookless_findScene (id : Document) (mode : EntryMode) : Bookless (findScene id mode) := by
  refine bookless_state (fun state books => ?_) fun state => ?_
  · simp only [← Scene.isAccessible_of_resembles (state.resembles_booked books)]
    rfl
  · refine bookless_engine (fun _ _ _ _ => rfl) fun e => .bind (bookless_lift _) fun scene => ?_
    refine .branch (.bind bookless_now fun now => ?_) (.pure _)
    exact .bind (bookless_lift _) fun accessible => .branch (.throw _) (.pure _)

theorem bookless_prepareScene (scene : Scene) : Bookless (prepareScene scene) := by
  have renders : ∀ content, Bookless (renderScene content scene) := fun content => by
    refine bookless_state (fun state books => ?_) fun state => ?_
    · simp only [← Scene.render_of_resembles (state.resembles_booked books)]
      rfl
    · exact .bind bookless_now fun _ => .bind (bookless_lift _) fun _ =>
        .bind (bookless_lift _) fun _ => .pure _
  refine bookless_engine (fun _ _ _ _ => rfl) fun e => ?_
  refine bookless_state (fun _ _ => rfl) fun state => ?_
  refine .bind (bookless_lift _) fun cast => ?_
  refine .bind (bookless_modifyEngine (.of_commutes fun _ _ _ _ => rfl)) fun _ => ?_
  refine bookless_state (fun _ _ => rfl) fun state => ?_
  exact .branch (.bind (bookless_play _) fun _ => renders _) (renders _)

theorem bookless_arrive (id : Document) (mode : EntryMode) (scene : Scene) :
    Bookless (arrive id mode scene) := by
  have moves : Bookless (moveTo id mode) :=
    .bind (bookless_modifyEngine Engine.bookless_forgetDelayed) fun _ =>
      .bind (bookless_modifyState (.of_commutes fun _ _ => rfl)) fun _ =>
        .branch (bookless_modifyState (.of_commutes fun _ _ => rfl)) (.pure _)
  have prepares := bookless_prepareScene scene
  have reaches : Bookless (reach id mode scene) :=
    .bind moves fun _ =>
      .branch (.bind (bookless_onStage scene.effects.process_bookless) fun _ => prepares) prepares
  exact .bind reaches fun _ =>
    .bind (bookless_modifyEngine (.of_commutes fun _ _ _ _ => rfl)) fun _ => .pure _

theorem bookless_settleIn (id : Document) (mode : EntryMode) (scene : Scene)
    (presented : PresentedScene) : Bookless (settleIn id mode scene presented) := by
  have counts : Bookless (countVisit id presented) :=
    .bind bookless_updateProgress fun _ => .bind bookless_checkAchievements fun _ =>
      bookless_publish _ _
  have waits : Engine.Bookless fun e => { e with delayed := scene.timeEffects } :=
    .of_commutes fun _ _ _ _ => rfl
  refine .bind counts fun _ => .branch (bookless_world (fun _ _ => rfl) fun world => ?_) (.pure _)
  have arms := waits.comp (Engine.bookless_arm world.elapsed)
  exact .bind (bookless_modifyEngine arms) fun _ => .pure _

theorem bookless_enterScene (id : Document) (mode : EntryMode) : Bookless (enterScene id mode) := by
  have sweeps : Bookless sweep :=
    .bind bookless_now fun now => bookless_onStage (TimedEffect.expire_blind now)
  rw [enterScene_eq]
  refine .bind (.bind sweeps fun _ => bookless_findScene id mode) fun scene => ?_
  refine .bind (bookless_arrive id mode scene) fun presented => ?_
  exact bookless_settleIn id mode scene presented

/-! ## The life of an engine -/

theorem bookless_wake : Bookless wake :=
  bookless_engine (fun _ _ _ _ => rfl) fun _ =>
    .branch (bookless_modifyEngine (.of_commutes fun _ _ _ _ => rfl)) (.pure _)

theorem bookless_setRunning : Bookless setRunning :=
  .bind (bookless_modifyEngine (.of_commutes fun _ _ _ _ => rfl)) fun _ => bookless_startTimers

/-- A new game has the same books on either side. -/
theorem bookless_startNewGame (story player : Document) : Bookless (startNewGame story player) := by
  have makes : Bookless (newGame story player) := by
    refine bookless_engine (fun _ _ _ _ => rfl) fun e => .bind (bookless_lift _) fun start => ?_
    refine .bind (bookless_modifyWorld fun _ _ => rfl) fun _ => ?_
    refine bookless_world (fun _ _ => rfl) fun world => ?_
    refine bookless_engine (fun _ _ _ _ => rfl) fun e => .bind ?_ fun _ => .pure _
    exact bookless_modifyEngine (Engine.bookless_replace _)
  refine .bind (bookless_requireInitialized _) fun _ => .bind bookless_stopTimers fun _ => ?_
  refine .bind (bookless_reporting _ (.bind makes fun _ => bookless_enterScene _ _)) fun scene => ?_
  refine .bind bookless_setRunning fun _ => bookless_state (fun _ _ => rfl) fun _ => ?_
  exact .bind (bookless_publish _ _) fun _ => .pure _

theorem bookless_pauseGame : Bookless pauseGame := by
  have halts : Engine.Bookless fun e => { e with status := .paused } :=
    .of_commutes fun _ _ _ _ => rfl
  refine bookless_engine (fun _ _ _ _ => rfl) fun _ => .branch ?_ (.pure _)
  refine .bind (bookless_requireStatus _ _) fun _ => ?_
  refine .bind (bookless_modifyEngine (halts.comp Engine.bookless_stopTimers)) fun _ => ?_
  exact .bind (bookless_play _) fun _ => bookless_publish _ _

theorem bookless_resumeGame : Bookless resumeGame := by
  refine bookless_engine (fun _ _ _ _ => rfl) fun _ => .branch ?_ (.pure _)
  refine .bind (bookless_requireStatus _ _) fun _ => ?_
  refine .bind (bookless_modifyEngine (.of_commutes fun _ _ _ _ => rfl)) fun _ => ?_
  exact .bind bookless_startTimers fun _ => .bind (bookless_play _) fun _ => bookless_publish _ _

theorem bookless_shutdown : Bookless shutdown := by
  have gone : Bookless (modifyEngine fun engine => { engine with
      state := none, delayed := none, status := .uninitialized }.resetScene) :=
    bookless_modifyEngine (.of_commutes fun _ _ _ _ => rfl)
  exact .bind bookless_stopTimers fun _ => bookless_engine (fun _ _ _ _ => rfl) fun _ =>
    .branch (.bind (bookless_play _) fun _ => gone) gone

/-- The last save may fail on one side, and be reported there. -/
theorem bookless_lastSave : Bookless (tryCatch
    (do
      let _ ← save finalSaveName false)
    fun fault => report "end_game" fault) := by
  have returns (s : Sitting) : result (tryCatch (do let _ ← save finalSaveName false)
      fun fault => report "end_game" fault) s = .ok () := by
    rw [result, outcome_tryCatch]
    rcases outcome (do let _ ← save finalSaveName false) s with ⟨r, s'⟩
    cases r <;> rfl
  exact fun s t akin => ⟨(returns s).trans (returns t).symm,
    (save_abreast finalSaveName false).discard.tryCatch (fun _ => akin_of_publish _) s t akin⟩

theorem bookless_endGame : Bookless endGame := by
  have ends : Engine.Bookless fun e => { e with status := .ended } :=
    .of_commutes fun _ _ _ _ => rfl
  refine bookless_engine (fun _ _ _ _ => rfl) fun _ => .branch ?_ (.pure _)
  refine .bind (bookless_modifyEngine (ends.comp Engine.bookless_stopTimers)) fun _ => ?_
  refine .bind bookless_checkAchievements fun _ => .bind bookless_lastSave fun _ => ?_
  refine .bind (bookless_play _) fun _ => bookless_state (fun _ _ => rfl) fun _ => ?_
  exact .bind (bookless_lift _) fun visited => bookless_publish _ _

/-! ## Choices -/

theorem bookless_accept (id : Document) : Bookless (accept id) := by
  refine bookless_engine (fun _ _ _ _ => rfl) fun e => ?_
  cases e.scene with
  | none => exact .throw _
  | some scene =>
    dsimp only
    cases scene.choice? id with
    | none => exact .bind (bookless_lift _) fun _ => .throw _
    | some choice =>
      refine .bind bookless_now fun now => bookless_state (fun state books => ?_) fun state => ?_
      · simp only [← choice.judge_of_resembles now (state.resembles_booked books)]
      · exact .bind (bookless_lift _) fun _ => .branch (.pure _) (.throw _)

/-- What was weighed alike, before games that differ in their books. -/
theorem weigh_akin (id : Document) :
    Matches Sitting.Akin
      (fun weighed other => ∃ books, other = (weighed.1, weighed.2.1, weighed.2.2.booked books))
      (weigh id) (weigh id) := by
  refine .bind_of_tracks (bookless_accept id) fun accepted => ?_
  -- The game is kept as it is, books and all, to be put back if the choice leads nowhere.
  refine .bind state_akin fun before other same => ?_
  obtain ⟨books, rfl⟩ := same
  refine .branch (engine_akin (fun _ _ _ _ => rfl) fun e => ?_) (.pure ⟨books, rfl⟩)
  exact .bind_of_tracks (bookless_lift _) fun _ => .pure ⟨books, rfl⟩

theorem commit_akin (id : Document) :
    Matches Sitting.Akin Commitment.Akin (commit id) (commit id) := by
  refine .bind (weigh_akin id) fun weighed other same => ?_
  obtain ⟨books, rfl⟩ := same
  have records : Bookless (recordChoice id weighed.2.2.currentSceneId weighed.1.text) :=
    .bind bookless_now fun now => bookless_modifyState (.of_commutes fun _ _ => rfl)
  refine .bind_of_tracks (bookless_onStage weighed.2.1.effects.process_bookless) fun effects => ?_
  exact .bind_of_tracks records fun _ => .pure (.intro books)

/-- A game that is put back is the one from before, with the books of then. -/
theorem putBack_akin (before : GameState) (books : Books) :
    Tracks Sitting.Akin (modifyState fun _ => before)
      (modifyState fun _ => before.booked books) := by
  refine .modify fun s t akin => ?_
  cases akin with
  | intro faults steady =>
    refine .of_parts rfl faults books ?_ steady
    simp [Option.map_map, Function.comp_def]

theorem conclude_akin (id : Document) {commitment other : Commitment}
    (h : commitment.Akin other) :
    Tracks Sitting.Akin (conclude id commitment) (conclude id other) := by
  cases h with
  | @intro choice result before effects books =>
    have follows (target : Document) : Tracks Sitting.Akin (follow target before)
        (follow target (before.booked books)) :=
      .tryCatch (bookless_enterScene _ _) fun _ =>
        .branch (.bind (putBack_akin before books) fun _ => .throw _) (.throw _)
    refine .branch ?_ ?_
    · exact .bind (follows _) fun _ => .bind (bookless_publish _ _) fun _ => .pure _
    · exact .bind (bookless_publish _ _) fun _ => .bind bookless_endGame fun _ => .pure _

theorem bookless_makeChoice (id : Document) : Bookless (makeChoice id) := by
  have resolves : Bookless (resolveChoice id) := by
    rw [resolveChoice_eq]
    exact .bind_of_matches (commit_akin id) fun _ _ akin => conclude_akin id akin
  have runs : Bookless (do requireStatus .running "make_choice"; resolveChoice id) :=
    .bind (bookless_requireStatus _ _) fun _ => resolves
  refine bookless_reporting _ (bookless_engine (fun _ _ _ _ => rfl) fun e => ?_)
  exact .branch (.bind (.throw _) fun _ => runs) runs

/-! ## Other deeds -/

theorem bookless_navigate (id : Document) : Bookless (navigate id) :=
  bookless_reporting _ (.bind (bookless_requireStatus _ _) fun _ => bookless_enterScene _ _)

theorem takeEffect_bookless (use : ItemUse) : Action.Bookless use.takeEffect := by
  unfold ItemUse.takeEffect
  split
  · exact use.effect.process_bookless
  · exact .branch (.bind use.effect.apply_bookless fun _ => .throw _) (.throw _)

theorem bookless_useItem (id : Document) : Bookless (useItem id) := by
  refine bookless_reporting _ (.bind (bookless_requireStatus _ _) fun _ => ?_)
  refine .bind (bookless_onStage (Inventory.useItem_blind id)) fun use => .branch ?_ (.pure _)
  refine .bind (bookless_onStage (takeEffect_bookless use)) fun _ => ?_
  exact .bind bookless_checkAchievements fun _ => .pure _

theorem bookless_interact (character kind : Document) : Bookless (interact character kind) := by
  refine bookless_reporting _ (.bind (bookless_requireStatus _ _) fun _ => ?_)
  refine bookless_engine (fun _ _ _ _ => rfl) fun e => ?_
  refine .bind (bookless_onStage (e.cast.interact_blind character kind)) fun _ => ?_
  exact .bind (bookless_modifyEngine (.of_commutes fun _ _ _ _ => rfl)) fun _ => .pure _

/-- Settings that are changed alike may still differ in when the game is saved. -/
theorem updateSettings_akin (changes : Fields) :
    Matches Sitting.Akin (fun _ _ => True) (updateSettings changes) (updateSettings changes) := by
  have told : Matches Sitting.Akin (fun _ _ => True) tellSettings tellSettings :=
    .bind state_akin fun _ _ _ => .bind_of_tracks (bookless_publish _ _) fun _ => .pure trivial
  have adjusts : Bookless (modifyState fun state =>
      { state with settings := state.settings.changeAll changes }) := by
    refine bookless_modifyState fun state books => ?_
    obtain ⟨autosave, autosaveInterval, changed⟩ :=
      state.settings.changeAll_rescheduled books.autosave books.autosaveInterval changes
    refine ⟨{ books with autosave, autosaveInterval }, ?_⟩
    dsimp only [GameState.booked]
    rw [changed]
  have puts : Matches Sitting.Akin (fun _ _ => True) (putSettings changes)
      (putSettings changes) := by
    refine .bind_of_tracks adjusts fun _ => engine_akin (fun _ _ _ _ => rfl) fun e => ?_
    refine .branch (.bind_of_tracks bookless_stopTimers fun _ => ?_) told
    exact .bind_of_tracks bookless_startTimers fun _ => told
  rw [updateSettings_eq]
  refine .bind_of_tracks (bookless_requireGame _) fun _ => ?_
  exact .branch (.bind_of_tracks (bookless_reject _ _) fun _ => puts) puts

theorem bookless_applyBundle (effect : Document) : Bookless (applyBundle effect) := by
  unfold applyBundle
  split
  · exact .pure _
  · refine bookless_world (fun _ _ => rfl) fun world => ?_
    refine .bind (bookless_modifyWorld fun _ _ => rfl) fun _ => ?_
    exact .bind (bookless_lift _) fun bundle => bookless_onStage bundle.process_bookless

theorem manualSave_abreast (name : Document) : Abreast (manualSave name) (manualSave name) := by
  have rejects (fault : Fault) : Leads Sitting.Akin
      (reject "manual_save" fault : Turn SaveSlot) :=
    .bind (akin_of_publish _) fun _ => .throw _
  refine .bind (bookless_requireGame _).matching fun _ _ _ => ?_
  exact (save_abreast name false).tryCatch rejects

theorem listSlots_akin : Leads Sitting.Akin listSlots := by
  refine .bind (.of_reads confined_world) fun world => ?_
  split
  · exact .pure _
  · exact .branch (.bind (akin_of_publish _) fun _ => .throw _) (.throw _)

/-! ## Timers of play -/

theorem bookless_countPlaytime : Bookless countPlaytime := by
  have restarts : Bookless startPlaytime :=
    bookless_world (fun _ _ => rfl) fun world =>
      bookless_modifyEngine (Engine.bookless_startPlaytime world.elapsed)
  refine bookless_engine (fun _ _ _ _ => rfl) fun _ => .branch ?_ restarts
  exact .bind (bookless_modifyState (.of_commutes fun _ _ => rfl)) fun _ => restarts

theorem bookless_applyDelayed : Bookless applyDelayed := by
  refine bookless_engine (fun _ _ _ _ => rfl) fun e => ?_
  cases e.delayed with
  | none => exact .pure _
  | some delayed =>
    refine .branch (.bind (bookless_modifyEngine (.of_commutes fun _ _ _ _ => rfl)) fun _ => ?_)
      (.pure _)
    refine .tryCatch ?_ fun fault => .branch (bookless_report _ _) (.pure _)
    refine .bind (bookless_onStage delayed.effect.process_bookless) fun _ => ?_
    exact bookless_checkAchievements

end Turn

namespace Sitting

variable {s t : Sitting}

/-- A timer of play goes off alike. -/
theorem Akin.fire (h : s.Akin t) {timer : Timer} (plays : timer.isSteady = true) :
    (s.fire timer).Akin (t.fire timer) := by
  have fires : Bookless (Turn.fire timer) := by
    refine .bind (Turn.bookless_modifyEngine (Engine.bookless_dropTimer timer)) fun _ => ?_
    unfold Timer.isSteady at plays
    cases kind : timer.kind with
    | playtime => exact Turn.bookless_countPlaytime
    | autosave =>
      rw [kind] at plays
      cases plays
    | delayedEffects => exact Turn.bookless_applyDelayed
  exact (fires s t h).2

/-- A timer that saves leaves the sitting akin to what it was. -/
theorem akin_fire (s : Sitting) {timer : Timer} (saves : timer.isSteady = false) :
    s.Akin (s.fire timer) := by
  have kind : timer.kind = .autosave := by
    unfold Timer.isSteady at saves
    simpa using saves
  have drops : Leads Sitting.Akin (Turn.modifyEngine fun engine => engine.dropTimer timer) := by
    refine Turn.akin_of_engine fun e => ⟨e.timers.erase timer, e.published, rfl, ?_⟩
    rw [steadyOf_erase]
    refine List.erase_of_not_mem fun mem => ?_
    have plays := (List.mem_filter.1 mem).2
    rw [saves] at plays
    cases plays
  unfold fire Turn.fire
  rw [kind]
  exact Leads.bind drops (fun _ => Turn.saveByItself_akin) s

end Sitting

/-! ## Operations -/

/-- Loads a game, which may be another one than the game that is left. -/
def Operation.loads : Operation → Bool
  | .begin (.savedGame _) => true
  | _ => false

/-- Operations do the same whatever the books of the game say. -/
theorem Operation.turn_abreast {operation : Operation} (instant : operation.isInstant = true)
    (stays : operation.loads = false) : Turn.Abreast operation.turn operation.turn := by
  cases operation with
  | wake => exact .of_tracks Turn.bookless_wake
  | begin opening =>
    cases opening with
    | newGame story player => exact .discard (.of_tracks (Turn.bookless_startNewGame story player))
    | savedGame slot => cases stays
  | pause => exact .of_tracks Turn.bookless_pauseGame
  | resume => exact .of_tracks Turn.bookless_resumeGame
  | shutdown => exact .of_tracks Turn.bookless_shutdown
  | choose choice => exact .discard (.of_tracks (Turn.bookless_makeChoice choice))
  | navigate scene => exact .discard (.of_tracks (Turn.bookless_navigate scene))
  | useItem item => exact .discard (.of_tracks (Turn.bookless_useItem item))
  | interact character kind =>
    exact .discard (.of_tracks (Turn.bookless_interact character kind))
  | updateSettings changes => exact .discard (.of_matches (Turn.updateSettings_akin changes))
  | applyBundle effect => exact .discard (.of_tracks (Turn.bookless_applyBundle effect))
  | autosave => exact .discard (.of_leads Turn.autosave_akin Turn.autosave_akin)
  | manualSave name => exact .discard (Turn.manualSave_abreast name)
  | listSlots => exact .discard (.of_leads Turn.listSlots_akin Turn.listSlots_akin)
  | pass seconds => cases instant
  | outside world =>
    intro s t akin
    cases akin with
    | intro faults steady => exact .intro rfl steady

end InteractiveFiction
