import InteractiveFiction.Proofs.Engine.WellFormed

/-!
Whatever is done with an engine, its game stays well-formed: one lemma for each operation, and for
every run `Sitting.wellFormed_run`.

New games are well-formed because the scene at which a story starts was found among those that were
read, and saved games because they were read themselves.
-/

set_option autoImplicit false

namespace InteractiveFiction

open Course

theorem Cast.interact_upholds (cast : Cast) (character kind : Document) :
    Upholds Stage.WellFormed Anything (cast.interact character kind) := by
  unfold interact
  split
  · exact .bind (Action.upholds_lift (.anything _)) fun _ _ => .throw _
  · split
    · exact .throw _
    · refine .bind Action.upholds_state fun state _ => .bind Action.upholds_now fun now _ => ?_
      refine .bind (Action.upholds_lift (.anything _)) fun responded _ => ?_
      exact .bind (Action.upholds_publish _) fun _ _ => .pure trivial

theorem Choice.judge_gives {now : Instant} {state : GameState} {choice : Choice}
    {startedAt : Document} (own : choice.effects.WellFormed) :
    Result.Gives (fun result => result.effects.WellFormed) (choice.judge now state startedAt) := by
  refine .bind (.anything _) fun refusal _ => ?_
  cases refusal with
  | some refusal => exact .pure (Item.wellFormed_of_numbers none none none)
  | none => exact .pure own

namespace Turn

/-! ## Choices -/

theorem endGame_upholds : Upholds Sitting.WellFormed Anything endGame := by
  refine .bind upholds_engine fun engine _ => .branch ?_ (.pure trivial)
  refine .bind (upholds_modifyEngine fun engine wellFormed => { wellFormed with }) fun _ _ => ?_
  refine .bind checkAchievements_upholds fun _ _ => ?_
  have lastSave : Upholds Sitting.WellFormed Anything (do let _ ← save finalSaveName false) :=
    .bind (save_upholds _ _) fun _ _ => .pure trivial
  refine .bind (.tryCatch lastSave fun fault => upholds_report _ _) fun _ _ => ?_
  refine .bind (upholds_play _) fun _ _ => .bind upholds_state fun state _ => ?_
  exact .bind (upholds_free _) fun visited _ => upholds_publish _

theorem accept_upholds (id : Document) :
    Upholds Sitting.WellFormed (fun accepted => accepted.2.effects.WellFormed) (accept id) := by
  refine .bind upholds_engine fun engine wellFormed => ?_
  split
  · exact .throw _
  · rename_i presented shown
    split
    · exact .bind (upholds_free _) fun _ _ => .throw _
    · rename_i choice offered
      obtain ⟨offer, found, rfl⟩ := Option.map_eq_some_iff.1 offered
      have own := wellFormed.scene presented shown offer (List.mem_of_find?_eq_some found)
      refine .bind upholds_now fun now _ => .bind upholds_state fun state _ => ?_
      refine .bind (upholds_lift (Choice.judge_gives own)) fun result brings => ?_
      exact .branch (.pure brings) (.throw _)

theorem follow_upholds (target : Document) {before : GameState} (h : before.WellFormed) :
    Upholds Sitting.WellFormed Anything (follow target before) := by
  refine .tryCatch (enterScene_upholds target {}) fun fault => ?_
  dsimp only
  split
  · exact .bind (upholds_modifyState fun _ _ => h) fun _ _ => .throw _
  · exact .throw _

theorem recordChoice_upholds (id scene text : Document) :
    Upholds Sitting.WellFormed Anything (recordChoice id scene text) := by
  refine .bind upholds_now fun now _ => upholds_modifyState fun state wellFormed => ?_
  refine { wellFormed with choices := fun record mem => ?_ }
  rcases List.mem_append.1 mem with old | new
  · exact wellFormed.choices record old
  · obtain rfl := List.mem_singleton.1 new
    exact Timestamp.isTruthy_text now

theorem weigh_upholds (id : Document) :
    Upholds Sitting.WellFormed
      (fun weighed => weighed.2.1.effects.WellFormed ∧ weighed.2.2.WellFormed) (weigh id) := by
  refine .bind (accept_upholds id) fun accepted brings => ?_
  refine .bind upholds_state fun before wellFormed => ?_
  refine .branch (.bind upholds_engine fun engine _ => ?_) (.pure ⟨brings, wellFormed⟩)
  exact .bind (upholds_free _) fun _ _ => .pure ⟨brings, wellFormed⟩

theorem commit_upholds (id : Document) :
    Upholds Sitting.WellFormed (fun commitment => commitment.before.WellFormed) (commit id) := by
  refine .bind (weigh_upholds id) fun weighed own => ?_
  refine .bind (upholds_onStage own.1.process_upholds) fun effects _ => ?_
  exact .bind (recordChoice_upholds _ _ _) fun _ _ => .pure own.2

theorem resolveChoice_upholds (id : Document) :
    Upholds Sitting.WellFormed Anything (resolveChoice id) := by
  rw [resolveChoice_eq]
  refine .bind (commit_upholds id) fun commitment wellFormed => .branch ?_ ?_
  · refine .bind (follow_upholds _ wellFormed) fun entered _ => ?_
    exact .bind (upholds_publish _) fun _ _ => .pure trivial
  · refine .bind (upholds_publish _) fun _ _ => ?_
    exact .bind endGame_upholds fun _ _ => .pure trivial

theorem makeChoice_upholds (id : Document) :
    Upholds Sitting.WellFormed Anything (makeChoice id) := by
  refine upholds_reporting _ (.bind upholds_engine fun engine _ => ?_)
  have resolves : Upholds Sitting.WellFormed Anything (do
      requireStatus .running "make_choice"
      resolveChoice id) :=
    .bind (upholds_requireStatus _ _) fun _ _ => resolveChoice_upholds id
  exact .branch (.of_throw _ _) resolves

/-! ## Other deeds of a player -/

theorem navigate_upholds (id : Document) : Upholds Sitting.WellFormed Anything (navigate id) :=
  upholds_reporting _ <|
    .bind (upholds_requireStatus _ _) fun _ _ => enterScene_upholds id {}

theorem takeEffect_upholds {use : ItemUse} (brings : use.effect.WellFormed) :
    Upholds Stage.WellFormed Anything use.takeEffect := by
  unfold ItemUse.takeEffect
  split
  · exact brings.process_upholds
  · exact .branch (.bind brings.apply_upholds fun _ _ => .throw _) (.throw _)

theorem useItem_upholds (id : Document) : Upholds Sitting.WellFormed Anything (useItem id) := by
  refine upholds_reporting _ (.bind (upholds_requireStatus _ _) fun _ _ => ?_)
  refine .bind (upholds_onStage (Inventory.useItem_upholds id)) fun use brings => ?_
  refine .branch (.bind (upholds_onStage (takeEffect_upholds brings)) fun _ _ => ?_) (.pure trivial)
  exact .bind checkAchievements_upholds fun _ _ => .pure trivial

theorem interact_upholds (character kind : Document) :
    Upholds Sitting.WellFormed Anything (interact character kind) := by
  refine upholds_reporting _ (.bind (upholds_requireStatus _ _) fun _ _ => ?_)
  refine .bind upholds_engine fun engine _ => ?_
  refine .bind (upholds_onStage (Cast.interact_upholds _ character kind)) fun interaction _ => ?_
  exact .bind (upholds_modifyEngine fun _ wellFormed => { wellFormed with }) fun _ _ => .pure trivial

theorem updateSettings_upholds (changes : Fields) :
    Upholds Sitting.WellFormed Anything (updateSettings changes) := by
  refine .bind (upholds_requireGame _) fun _ _ => ?_
  refine .branch (.bind (upholds_reject _ _) fun _ (never : False) => never.elim) ?_
  refine .bind (upholds_modifyState fun state wellFormed => { wellFormed with }) fun _ _ => ?_
  refine .bind upholds_engine fun engine _ => .branch ?_ ?_
  · refine .bind stopTimers_upholds fun _ _ => .bind startTimers_upholds fun _ _ => ?_
    exact .bind upholds_state fun state _ => .bind (upholds_publish _) fun _ _ => .pure trivial
  · exact .bind upholds_state fun state _ => .bind (upholds_publish _) fun _ _ => .pure trivial

theorem applyBundle_upholds (effect : Document) :
    Upholds Sitting.WellFormed Anything (applyBundle effect) := by
  refine .branch (.pure trivial) (.bind upholds_world fun world _ => ?_)
  have read := Effect.ofDocument_gives effect world.issued trivial
  refine .bind (upholds_modifyWorld _) fun _ _ => ?_
  refine .bind (upholds_lift read.2) fun effect own => ?_
  exact upholds_onStage own.process_upholds

theorem manualSave_upholds (name : Document) :
    Upholds Sitting.WellFormed Anything (manualSave name) :=
  .bind (upholds_requireGame _) fun _ _ =>
    .tryCatch (save_upholds name false) fun _ => upholds_reject _ _

theorem listSlots_upholds : Upholds Sitting.WellFormed Anything listSlots := by
  refine .bind upholds_world fun world _ => ?_
  split
  · exact .pure trivial
  · exact .branch (.bind (upholds_report _ _) fun _ _ => .throw _) (.throw _)

/-! ## The life of an engine -/

theorem wake_upholds : Upholds Sitting.WellFormed Anything wake :=
  .bind upholds_engine fun _ _ =>
    .branch (upholds_modifyEngine fun _ wellFormed => { wellFormed with }) (.pure trivial)

theorem setRunning_upholds : Upholds Sitting.WellFormed Anything setRunning :=
  .bind (upholds_modifyEngine fun _ wellFormed => { wellFormed with }) fun _ _ =>
    startTimers_upholds

theorem pauseGame_upholds : Upholds Sitting.WellFormed Anything pauseGame := by
  refine .bind upholds_engine fun engine _ => .branch ?_ (.pure trivial)
  refine .bind (upholds_requireStatus _ _) fun _ _ => ?_
  refine .bind (upholds_modifyEngine fun _ wellFormed => { wellFormed with }) fun _ _ => ?_
  exact .bind (upholds_play _) fun _ _ => upholds_publish _

theorem resumeGame_upholds : Upholds Sitting.WellFormed Anything resumeGame := by
  refine .bind upholds_engine fun engine _ => .branch ?_ (.pure trivial)
  refine .bind (upholds_requireStatus _ _) fun _ _ => ?_
  refine .bind (upholds_modifyEngine fun _ wellFormed => { wellFormed with }) fun _ _ => ?_
  refine .bind startTimers_upholds fun _ _ => ?_
  exact .bind (upholds_play _) fun _ _ => upholds_publish _

theorem shutdown_upholds : Upholds Sitting.WellFormed Anything shutdown := by
  refine .bind stopTimers_upholds fun _ _ => .bind upholds_engine fun engine _ => ?_
  have gone : Upholds Sitting.WellFormed Anything (modifyEngine fun engine =>
      { engine with state := none, delayed := none, status := .uninitialized }.resetScene) := by
    refine upholds_modifyEngine fun engine wellFormed => ?_
    have empty : { engine with
        state := none, delayed := none, status := .uninitialized }.WellFormed :=
      { wellFormed with
        state := by intro state is; cases is
        delayed := by intro delayed is; cases is }
    exact empty.resetScene
  exact .branch (.bind (upholds_play _) fun _ _ => gone) gone

/-! ## Opening a game -/

end Turn

theorem GameState.ofArchive_gives (now : Instant) (slot : String) (archive : Document) :
    Result.Gives WellFormed (ofArchive now slot archive) := by
  intro state ended
  unfold ofArchive at ended
  cases read : archive.require "state" >>= ofDocument now with
  | error fault =>
    rw [read] at ended
    cases ended
  | ok own =>
    rw [read] at ended
    cases ended
    obtain ⟨d, -, ofDocument⟩ := Result.ok_of_bind read
    exact wellFormed_of_ofDocument ofDocument

theorem GameState.ofCopy_gives (now : Instant) (slot : String) (archive : Document) :
    Result.Gives WellFormed (ofCopy now slot archive) := by
  unfold ofCopy
  split
  · exact ofArchive_gives now slot archive
  · exact .throw _

theorem SaveStore.load_gives (store : SaveStore) (now : Instant) (id : String) :
    Result.Gives GameState.WellFormed (store.load now id) := by
  unfold load
  split
  · unfold MemoryStore.load
    split
    · exact .throw _
    · exact GameState.ofCopy_gives _ _ _
  · refine .bind (.anything _) fun name _ => .bind (.anything _) fun there _ => ?_
    split
    · exact .bind (.anything _) fun archive _ => GameState.ofArchive_gives _ _ _
    · exact .throw _

namespace Opening

theorem find_upholds (opening : Opening) :
    Upholds Sitting.WellFormed GameState.WellFormed opening.find := by
  cases opening with
  | newGame story player =>
    refine .bind Turn.upholds_engine fun engine wellFormed => ?_
    have starts := Repository.startingScene_gives wellFormed.content story
    refine .bind (Turn.upholds_lift starts) fun start own => ?_
    refine .bind (Turn.upholds_modifyWorld _) fun _ _ => .bind Turn.upholds_world fun world _ => ?_
    refine .bind Turn.upholds_engine fun engine _ => .pure ?_
    have identified := isTruthy_text_iff.2 (Identity.uuid_ne_empty world.issued)
    exact GameState.wellFormed_starting _ _ _ identified own.2 own.1
  | savedGame slot =>
    refine .bind Turn.upholds_world fun world _ => ?_
    exact Turn.upholds_lift (SaveStore.load_gives _ _ _)

theorem enter_upholds (opening : Opening) :
    Upholds Sitting.WellFormed Anything opening.enter := by
  have replaces : Upholds Sitting.WellFormed Anything opening.replace := by
    refine .bind opening.find_upholds fun state own => ?_
    refine .bind (Turn.upholds_modifyEngine fun engine wellFormed => ?_) fun _ _ => .pure trivial
    exact (wellFormed.withState own).resetScene
  exact .bind replaces fun id _ => Turn.enterScene_upholds id _

theorem turn_upholds (opening : Opening) : Upholds Sitting.WellFormed Anything opening.turn := by
  rw [turn_eq]
  refine .bind (Turn.upholds_requireInitialized _) fun _ _ => ?_
  refine .bind Turn.stopTimers_upholds fun _ _ => ?_
  refine .bind (Turn.upholds_reporting _ opening.enter_upholds) fun scene _ => ?_
  refine .bind Turn.setRunning_upholds fun _ _ => .bind Turn.upholds_state fun state _ => ?_
  exact .bind (Turn.upholds_publish _) fun _ _ => .pure trivial

end Opening

/-! ## The passing of time -/

namespace Turn

theorem countPlaytime_upholds : Upholds Sitting.WellFormed Anything countPlaytime := by
  have counts := upholds_setTimers Engine.untimed_startPlaytime
  refine .bind upholds_engine fun engine _ => .branch ?_ counts
  exact .bind (upholds_modifyState fun state wellFormed => { wellFormed with }) fun _ _ => counts

theorem saveByItself_upholds : Upholds Sitting.WellFormed Anything saveByItself := by
  have waits := upholds_setTimers Engine.untimed_startAutosave
  refine .bind upholds_engine fun engine _ => .branch ?_ waits
  exact .bind autosave_upholds fun _ _ => waits

theorem applyDelayed_upholds : Upholds Sitting.WellFormed Anything applyDelayed := by
  refine .bind upholds_engine fun engine wellFormed => ?_
  split
  · rename_i delayed waits
    refine .branch (.bind (upholds_modifyEngine fun engine wellFormed => ?_) fun _ _ => ?_)
      (.pure trivial)
    · exact { wellFormed with delayed := by intro delayed is; cases is }
    · have own := wellFormed.delayed delayed waits
      have applies : Upholds Sitting.WellFormed Anything (do
          let _ ← onStage delayed.effect.process
          checkAchievements) :=
        .bind (upholds_onStage own.process_upholds) fun _ _ => checkAchievements_upholds
      exact .tryCatch applies fun fault => .branch (upholds_report _ _) (.pure trivial)
  · exact .pure trivial

theorem fire_upholds (timer : Timer) : Upholds Sitting.WellFormed Anything (fire timer) := by
  refine .bind (upholds_modifyEngine fun _ wellFormed => { wellFormed with }) fun _ _ => ?_
  split
  · exact countPlaytime_upholds
  · exact saveByItself_upholds
  · exact applyDelayed_upholds

theorem passWithin_upholds (time : Float) (fuel : Nat) :
    Upholds Sitting.WellFormed Anything (passWithin time fuel) := by
  induction fuel with
  | zero => exact .pure trivial
  | succ fuel ih =>
    refine .bind upholds_engine fun engine _ => ?_
    split
    · refine .bind (upholds_modifyWorld _) fun _ _ => ?_
      exact .bind (fire_upholds _) fun _ _ => ih
    · exact .pure trivial

theorem pass_upholds (seconds : Float) : Upholds Sitting.WellFormed Anything (pass seconds) :=
  .bind upholds_world fun _ _ => .bind upholds_engine fun _ _ =>
    .bind (passWithin_upholds _ _) fun _ _ => upholds_modifyWorld _

end Turn

/-! ## Runs -/

theorem Operation.turn_upholds (operation : Operation) :
    Upholds Sitting.WellFormed Anything operation.turn := by
  cases operation with
  | wake => exact Turn.wake_upholds
  | begin opening => exact .bind opening.turn_upholds fun _ _ => .pure trivial
  | pause => exact Turn.pauseGame_upholds
  | resume => exact Turn.resumeGame_upholds
  | shutdown => exact Turn.shutdown_upholds
  | choose choice => exact .bind (Turn.makeChoice_upholds choice) fun _ _ => .pure trivial
  | navigate scene => exact .bind (Turn.navigate_upholds scene) fun _ _ => .pure trivial
  | useItem item => exact .bind (Turn.useItem_upholds item) fun _ _ => .pure trivial
  | interact character kind =>
    exact .bind (Turn.interact_upholds character kind) fun _ _ => .pure trivial
  | updateSettings changes =>
    exact .bind (Turn.updateSettings_upholds changes) fun _ _ => .pure trivial
  | applyBundle effect =>
    exact .bind (Turn.applyBundle_upholds effect) fun _ _ => .pure trivial
  | autosave => exact .bind Turn.autosave_upholds fun _ _ => .pure trivial
  | manualSave name => exact .bind (Turn.manualSave_upholds name) fun _ _ => .pure trivial
  | listSlots => exact .bind Turn.listSlots_upholds fun _ _ => .pure trivial
  | pass seconds => exact Turn.pass_upholds seconds
  | outside world => exact Turn.upholds_modifyWorld _

namespace Sitting

theorem wellFormed_fresh {content : Repository} (h : content.WellFormed) (world : World)
    (config : EngineConfig) (audio : AudioSink) : (fresh world content config audio).WellFormed where
  content := h
  state := by intro state is; cases is
  delayed := by intro delayed is; cases is
  scene := by intro presented is; cases is

theorem WellFormed.step {s : Sitting} (h : s.WellFormed) (operation : Operation) :
    (s.step operation).WellFormed :=
  (operation.turn_upholds s h).1

theorem wellFormed_run {s : Sitting} (h : s.WellFormed) (operations : List Operation) :
    (s.run operations).WellFormed := by
  induction operations generalizing s with
  | nil => exact h
  | cons operation operations ih => exact ih (h.step operation)

end Sitting

end InteractiveFiction
