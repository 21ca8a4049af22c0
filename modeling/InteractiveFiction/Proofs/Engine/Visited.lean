import InteractiveFiction.Proofs.Engine.Frame
import InteractiveFiction.Proofs.Engine.Loading
import InteractiveFiction.Proofs.Engine.Reach
import InteractiveFiction.Proofs.Engine.Record
import InteractiveFiction.Proofs.Engine.Route

/-!
Along every run, the scenes that a game has visited are of its story, and the last of them is the one
at which it stands.

* Whatever is done with an engine goes on along its route; only a game that is opened may come from
  elsewhere (`journeys_of_step`).  A new game of an accepted story has been where the story starts.
* `Sitting.LoadsOwn`: what is loaded in a run is what the run itself has left in the slot.  Then each
  game that is opened has a charted route too (`bound_of_prefix`).
* `visited_scenes_of_story`: so after every such run on stories that were checked.
-/

set_option autoImplicit false

namespace InteractiveFiction

open Course

namespace Turn

variable {α : Type}

/-! ## Choices -/

/-- Whether the entry stands or the state from before is put back, the route stays charted. -/
theorem follow_journeys {target : Document} {before : GameState} {s : Sitting}
    (same : s.engine.state.map GameState.route = some before.route) :
    s.Journeys (after (follow target before) s) := by
  rcases entered : outcome (enterScene target {}) s with ⟨r, t⟩
  have goes : s.Journeys t := by
    have goes : s.Journeys (after (enterScene target {}) s) := enterScene_journeys (.inl rfl)
    rwa [after, entered] at goes
  cases r with
  | ok presented =>
    rw [after, outcome_follow_of_ok entered]
    exact goes
  | error fault =>
    rw [after, outcome_follow_of_error entered]
    dsimp only
    split
    · intro charted
      obtain ⟨first, isFirst, route⟩ := Option.map_eq_some_iff.1 same
      refine ⟨(goes charted).content, fun left isLeft => ?_, (goes charted).slots⟩
      obtain ⟨-, -, rfl⟩ := Option.map_eq_some_iff.1 isLeft
      have content : (t.putBack before).engine.content = s.engine.content :=
        (goes charted).content
      rw [content, ← route]
      exact charted first isFirst
    · exact goes

theorem endGame_journeys : Leads Sitting.Journeys endGame := by
  have ends : Unmoved (modifyEngine fun engine => { engine with status := .ended }.stopTimers) :=
    modifyEngine_unmoved fun _ => rfl
  refine .bind (.of_reads confined_engine) fun engine => .branch ?_ (.pure ())
  refine .bind ends.journeys fun _ => .bind checkAchievements_unmoved.journeys fun _ => ?_
  refine .bind (.tryCatch (.bind (save_journeys _ _) fun _ => .pure ()) fun fault => ?_) fun _ => ?_
  · exact (report_unmoved _ _).journeys
  · refine .bind (play_unmoved _).journeys fun _ => ?_
    refine .bind (.of_reads (confined_state trivial)) fun state => ?_
    exact .bind (.of_reads (confined_lift (Result.anyFault _)))
      fun _ => (publish_unmoved _).journeys

theorem conclude_journeys {id : Document} {commitment : Commitment} {s : Sitting}
    (same : s.engine.state.map GameState.route = some commitment.before.route) :
    s.Journeys (after (conclude id commitment) s) := by
  have told : Leads Sitting.Journeys
      (publish (.choiceMade id commitment.before.currentSceneId commitment.choice.text)) :=
    (publish_unmoved _).journeys
  unfold conclude
  dsimp only
  split
  · exact Leads.after_bind (follow_journeys same) fun _ => .bind told fun _ => .pure _
  · exact Leads.bind told (fun _ => .bind endGame_journeys fun _ => .pure _) s

theorem makeChoice_journeys (id : Document) : Leads Sitting.Journeys (makeChoice id) := by
  intro s
  by_cases running : s.engine.status = .running
  · have same := makeChoice_of_running running id
    rw [after, same]
    refine reporting_journeys ?_
    rcases committed : outcome (commit id) s with ⟨r, s₁⟩
    have kept := ((commit_unmoved id).of_outcome committed).1
    rw [after]
    cases r with
    | error fault =>
      rw [outcome_bind_of_error committed]
      exact .of_itinerary kept
    | ok commitment =>
      rw [outcome_bind_of_ok committed]
      have isBefore : s.engine.state = some commitment.before := (commit_ends committed).2
      have route : s₁.engine.state.map GameState.route = some commitment.before.route := by
        have same : s₁.engine.state.map GameState.route = s.engine.state.map GameState.route :=
          congrArg (fun itinerary => itinerary.2.1) kept
        rw [same, isBefore]
        rfl
      exact Sitting.Journeys.trans (.of_itinerary kept) (conclude_journeys route)
  · obtain ⟨fault, idle⟩ := makeChoice_of_idle running id
    rw [after, idle]
    refine .of_itinerary ?_
    unfold Sitting.blame
    split <;> rfl

theorem navigate_journeys (id : Document) : Leads Sitting.Journeys (navigate id) := by
  have enters : Leads Sitting.Journeys (enterScene id {}) :=
    fun _ => enterScene_journeys (.inl rfl)
  refine fun s => reporting_journeys ?_
  exact Leads.bind (.of_reads (requireStatus_reads _ _)) (fun _ => enters) s

/-! ## Items, characters, bundles and settings -/

theorem useItem_unmoved (id : Document) : Unmoved (useItem id) := by
  refine reporting_unmoved _ (.bind (unmoved_of_reads (requireStatus_reads _ _)) fun _ => ?_)
  refine .bind (inFront_unmoved (Inventory.useItem_inFront id)) fun use => .branch ?_ (.pure use)
  refine .bind (inFront_unmoved (takeEffect_inFront use)) fun _ => ?_
  exact .bind checkAchievements_unmoved fun _ => .pure use

theorem interact_unmoved (character kind : Document) : Unmoved (interact character kind) := by
  refine reporting_unmoved _ (.bind (unmoved_of_reads (requireStatus_reads _ _)) fun _ => ?_)
  refine .bind confined_engine fun engine => ?_
  refine .bind (onStage_unmoved (interact_keeps _ _ _)) fun _ => ?_
  exact .bind (modifyEngine_unmoved fun _ => rfl) fun _ => .pure _

theorem requireGame_unmoved (operation : String) : Unmoved (requireGame operation) :=
  .bind confined_engine fun _ => .branch (reject_unmoved _ _) (.pure ())

theorem updateSettings_unmoved (changes : Fields) : Unmoved (updateSettings changes) := by
  have told : Unmoved tellSettings :=
    .bind (confined_state trivial) fun _ => .bind (publish_unmoved _) fun _ => .pure _
  have puts : Unmoved (putSettings changes) := by
    refine .bind (modifyState_unmoved fun _ => rfl) fun _ => .bind confined_engine fun engine => ?_
    refine .branch (.bind stopTimers_unmoved fun _ => ?_) told
    exact .bind startTimers_unmoved fun _ => told
  rw [updateSettings_eq]
  refine .bind (requireGame_unmoved _) fun _ => ?_
  exact .branch (.bind (reject_unmoved _ _) fun _ => puts) puts

theorem applyBundle_unmoved (effect : Document) : Unmoved (applyBundle effect) := by
  refine .branch (.pure []) (.bind confined_world fun world => ?_)
  refine .bind (modifyWorld_unmoved fun _ => rfl) fun _ => ?_
  refine .bind (confined_lift (Result.anyFault _)) fun bundle => ?_
  exact inFront_unmoved bundle.process_inFront

theorem listSlots_unmoved : Unmoved listSlots := by
  refine .bind confined_world fun world => ?_
  split
  · exact .pure _
  · exact .branch (.bind (report_unmoved _ _) fun _ => .throw trivial) (.throw trivial)

theorem manualSave_journeys (name : Document) : Leads Sitting.Journeys (manualSave name) :=
  .bind (requireGame_unmoved _).journeys fun _ =>
    .tryCatch (save_journeys name false) fun _ => (reject_unmoved _ _).journeys

/-! ## The life of an engine -/

theorem wake_unmoved : Unmoved wake :=
  .bind confined_engine fun _ => .branch (modifyEngine_unmoved fun _ => rfl) (.pure ())

theorem pauseGame_unmoved : Unmoved pauseGame := by
  refine .bind confined_engine fun engine => .branch ?_ (.pure ())
  refine .bind (unmoved_of_reads (requireStatus_reads _ _)) fun _ => ?_
  refine .bind (modifyEngine_unmoved fun _ => rfl) fun _ => ?_
  exact .bind (play_unmoved _) fun _ => publish_unmoved _

theorem resumeGame_unmoved : Unmoved resumeGame := by
  refine .bind confined_engine fun engine => .branch ?_ (.pure ())
  refine .bind (unmoved_of_reads (requireStatus_reads _ _)) fun _ => ?_
  refine .bind (modifyEngine_unmoved fun _ => rfl) fun _ => .bind startTimers_unmoved fun _ => ?_
  exact .bind (play_unmoved _) fun _ => publish_unmoved _

/-- Where there is no game, there is no route. -/
theorem shutdown_journeys : Leads Sitting.Journeys shutdown := by
  have goes : Leads Sitting.Journeys (modifyEngine fun engine =>
      { engine with state := none, delayed := none, status := .uninitialized }.resetScene) := by
    refine .modify fun s _ => ⟨rfl, fun state isState => ?_, fun _ => .inl fun _ => rfl⟩
    exact absurd isState (Option.some_ne_none state).symm
  refine .bind stopTimers_unmoved.journeys fun _ => .bind (.of_reads confined_engine) fun engine => ?_
  exact .branch (.bind (play_unmoved _).journeys fun _ => goes) goes

/-! ## The passing of time -/

theorem countPlaytime_unmoved : Unmoved countPlaytime := by
  have again : Unmoved startPlaytime :=
    .bind confined_world fun _ => modifyEngine_unmoved fun _ => rfl
  refine .bind confined_engine fun engine => .branch (.bind ?_ fun _ => again) again
  exact modifyState_unmoved fun _ => rfl

theorem saveByItself_journeys : Leads Sitting.Journeys saveByItself := by
  have again : Unmoved startAutosave :=
    .bind confined_world fun world => untimed_unmoved fun engine =>
      engine.untimed_startAutosave world.elapsed
  refine .bind (.of_reads confined_engine) fun engine => ?_
  exact .branch (.bind autosave_journeys fun _ => again.journeys) again.journeys

theorem applyDelayed_unmoved : Unmoved applyDelayed := by
  refine .bind confined_engine fun engine => ?_
  split
  · rename_i delayed _
    have applies : Unmoved (do
        let _ ← onStage delayed.effect.process
        checkAchievements) :=
      .bind (inFront_unmoved delayed.effect.process_inFront) fun _ => checkAchievements_unmoved
    refine .branch (.bind (modifyEngine_unmoved fun _ => rfl) fun _ => ?_) (.pure ())
    exact .tryCatch applies fun fault _ => .branch (report_unmoved _ _) (.pure ())
  · exact .pure ()

theorem fire_journeys (timer : Timer) : Leads Sitting.Journeys (fire timer) := by
  have drops : Unmoved (modifyEngine fun engine => engine.dropTimer timer) :=
    modifyEngine_unmoved fun _ => rfl
  refine .bind drops.journeys fun _ => ?_
  cases timer.kind with
  | playtime => exact countPlaytime_unmoved.journeys
  | autosave => exact saveByItself_journeys
  | delayedEffects => exact applyDelayed_unmoved.journeys

theorem advanceTo_unmoved (time : Float) : Unmoved (modifyWorld fun world => world.advanceTo time) :=
  modifyWorld_unmoved fun world => by
    unfold World.advanceTo
    split <;> rfl

theorem pass_journeys (seconds : Float) : Leads Sitting.Journeys (pass seconds) := by
  have within (time : Float) (fuel : Nat) : Leads Sitting.Journeys (passWithin time fuel) := by
    induction fuel with
    | zero => exact .pure ()
    | succ fuel ih =>
      refine .bind (.of_reads confined_engine) fun engine => ?_
      split
      · refine .bind (advanceTo_unmoved _).journeys fun _ => ?_
        exact .bind (fire_journeys _) fun _ => ih
      · exact .pure ()
  refine .bind (.of_reads confined_world) fun world => .bind (.of_reads confined_engine) fun engine => ?_
  exact .bind (within _ _) fun _ => (advanceTo_unmoved _).journeys

end Turn

/-! ## Openings -/

namespace Opening

theorem find_unmoved (opening : Opening) : Turn.Unmoved opening.find := by
  cases opening with
  | newGame story player =>
    refine .bind Turn.confined_engine fun engine => ?_
    refine .bind (Turn.confined_lift (Result.anyFault _)) fun start => ?_
    refine .bind (Turn.modifyWorld_unmoved fun _ => rfl) fun _ => ?_
    exact .bind Turn.confined_world fun world => .bind Turn.confined_engine fun _ => .pure _
  | savedGame slot =>
    exact .bind Turn.confined_world fun world => Turn.confined_lift (Result.anyFault _)

/-- Whatever game is found, its route is charted. -/
def Charts (opening : Opening) (s : Sitting) : Prop :=
  ∀ state t, outcome opening.find s = (.ok state, t) → state.route.Charted s.engine.content

theorem enter_journeys {opening : Opening} {s : Sitting} (charts : opening.Charts s) :
    s.Journeys (after opening.enter s) := by
  unfold enter replace
  rcases found : outcome opening.find s with ⟨r, s₁⟩
  have kept := (opening.find_unmoved.of_outcome found).1
  rw [after]
  cases r with
  | error fault =>
    rw [outcome_bind_of_error (outcome_bind_of_error found _)]
    exact .of_itinerary kept
  | ok state =>
    have content : s₁.engine.content = s.engine.content := congrArg Prod.fst kept
    have store : s₁.world.store = s.world.store :=
      congrArg (fun itinerary => itinerary.2.2) kept
    let s₂ : Sitting := { s₁ with engine := { s₁.engine with state := some state }.resetScene }
    have put : outcome (do
        let state ← opening.find
        Turn.modifyEngine fun engine => { engine with state := some state }.resetScene
        pure state.currentSceneId) s = (.ok state.currentSceneId, s₂) := by
      rw [outcome_bind_of_ok found]
      rfl
    rw [outcome_bind_of_ok put]
    have placed : s.Journeys s₂ := by
      refine fun _ => ⟨content, fun other isOther => ?_, fun slot => .inl fun now => ?_⟩
      · obtain rfl : state = other := Option.some.inj isOther
        have content₂ : s₂.engine.content = s.engine.content := content
        rw [content₂]
        exact charts state s₁ found
      · have store₂ : s₂.world.store = s.world.store := store
        rw [store₂]
    refine placed.trans (Turn.enterScene_journeys (.inr fun other isOther => ?_))
    obtain rfl : state = other := Option.some.inj isOther
    rfl

theorem turn_journeys {opening : Opening} {s : Sitting} (charts : opening.Charts s.stopped) :
    s.Journeys (after opening.turn s) := by
  by_cases asleep : s.engine.status = .uninitialized
  · obtain ⟨fault, refused⟩ : ∃ fault, outcome opening.turn s =
        (.error fault, s.blame opening.operation fault) := turn_of_uninitialized asleep
    rw [after, refused]
    refine .of_itinerary ?_
    unfold Sitting.blame
    split <;> rfl
  · rw [turn_eq, after, outcome_bind_of_ok (Turn.outcome_requireInitialized asleep _)]
    rw [outcome_bind_of_ok (Turn.outcome_stopTimers s)]
    have stops : s.Journeys s.stopped := .of_itinerary rfl
    refine stops.trans ?_
    refine Leads.after_bind (Turn.reporting_journeys (enter_journeys charts)) fun scene => ?_
    refine .bind Turn.setRunning_unmoved.journeys fun _ => ?_
    refine .bind (.of_reads (Turn.confined_state trivial)) fun state => ?_
    exact .bind (Turn.publish_unmoved _).journeys fun _ => .pure _

/-- A new game of an accepted story has been where the story starts, and nowhere else. -/
theorem newGame_charts {story player : Document} {s : Sitting}
    (accepted : s.engine.content.Accepted) : (Opening.newGame story player).Charts s := by
  intro state t found
  obtain ⟨engine, s₁, isEngine, afterEngine⟩ := ok_of_outcome_bind found
  cases isEngine
  obtain ⟨start, s₂, starts, afterStart⟩ := ok_of_outcome_bind afterEngine
  obtain ⟨_, s₃, -, afterIssue⟩ := ok_of_outcome_bind afterStart
  obtain ⟨world, s₄, -, afterWorld⟩ := ok_of_outcome_bind afterIssue
  obtain ⟨engine', s₅, -, made⟩ := ok_of_outcome_bind afterWorld
  rw [Turn.outcome_lift] at starts
  obtain ⟨told, isStory, isStart⟩ := Result.ok_of_bind (Prod.mk.inj starts).1
  obtain ⟨check, passed⟩ := accepted.story isStory
  obtain ⟨scene, known⟩ := Option.isSome_iff_exists.1 (Story.hasScene_starting passed)
  cases isStart
  cases made
  refine ⟨rfl, fun id mem => ⟨scene, ?_⟩⟩
  obtain rfl := List.mem_singleton.1 mem
  have isScene : s.engine.content.scene story told.startingSceneId = .ok scene := by
    rw [Repository.scene, Result.bind_of_ok isStory]
    exact Repository.find_of_record known _
  exact isScene

end Opening

/-! ## Operations -/

/-- What happens around an engine, and is not done with it. -/
def Operation.isOutside : Operation → Bool
  | .outside _ => true
  | _ => false

namespace Sitting

theorem journeys_of_step {s : Sitting} {operation : Operation}
    (inside : operation.isOutside = false)
    (charts : ∀ opening, operation = .begin opening → opening.Charts s.stopped) :
    s.Journeys (s.step operation) := by
  have leads : ∀ {turn : Turn Unit}, Leads Journeys turn → s.Journeys (after turn s) := fun h => h s
  cases operation with
  | wake => exact leads Turn.wake_unmoved.journeys
  | begin opening =>
    rw [step_begin]
    exact Opening.turn_journeys (charts opening rfl)
  | pause => exact leads Turn.pauseGame_unmoved.journeys
  | resume => exact leads Turn.resumeGame_unmoved.journeys
  | shutdown => exact leads Turn.shutdown_journeys
  | choose id => exact leads (.bind (Turn.makeChoice_journeys id) fun _ => .pure ())
  | navigate id => exact leads (.bind (Turn.navigate_journeys id) fun _ => .pure ())
  | useItem id => exact leads (.bind (Turn.useItem_unmoved id).journeys fun _ => .pure ())
  | interact character kind =>
    exact leads (.bind (Turn.interact_unmoved character kind).journeys fun _ => .pure ())
  | updateSettings changes =>
    exact leads (.bind (Turn.updateSettings_unmoved changes).journeys fun _ => .pure ())
  | applyBundle effect =>
    exact leads (.bind (Turn.applyBundle_unmoved effect).journeys fun _ => .pure ())
  | autosave => exact leads (.bind Turn.autosave_journeys fun _ => .pure ())
  | manualSave name => exact leads (.bind (Turn.manualSave_journeys name) fun _ => .pure ())
  | listSlots => exact leads (.bind Turn.listSlots_unmoved.journeys fun _ => .pure ())
  | pass seconds => exact leads (Turn.pass_journeys seconds)
  | outside world => cases inside

/-! ## Runs -/

/-- What is loaded from a slot, whenever that is. -/
def gives (s : Sitting) (slot : String) : Instant → Result GameState :=
  fun now => s.world.store.load now slot

/-- What a slot gives was left there by something that was done with the engine in the run. -/
def Deposits (s : Sitting) (operations : List Operation) (slot : String) : Prop :=
  ∃ before operation later, operations = before ++ operation :: later ∧
    operation.isOutside = false ∧
    ((s.run before).step operation).gives slot ≠ (s.run before).gives slot ∧
    (s.run operations).gives slot = ((s.run before).step operation).gives slot

/-- Whenever a game is loaded in the run, the run itself has left it in the slot. -/
def LoadsOwn (s : Sitting) (operations : List Operation) : Prop :=
  ∀ past slot rest state, operations = past ++ .begin (.savedGame slot) :: rest →
    (s.run past).gives slot (s.run past).world.now = .ok state → s.Deposits past slot

/-- The route of the game is charted in a library, and whatever is done next goes on along it. -/
structure Bound (content : Repository) (operations past : List Operation) (s : Sitting) : Prop where
  content : s.engine.content = content
  charted : s.Charted
  goes : ∀ operation, past ++ [operation] <+: operations → operation.isOutside = false →
    s.Journeys (s.step operation)

variable {content : Repository} {s : Sitting}

/-- What was left in a slot earlier in the run is a game whose route is charted. -/
theorem charted_of_deposits {operations past : List Operation} (isPast : past <+: operations)
    (earlier : ∀ before, before.length < past.length → before <+: operations →
      Bound content operations before (s.run before))
    {slot : String} (left : s.Deposits past slot) {now : Instant} {state : GameState}
    (loads : (s.run past).gives slot now = .ok state) : state.route.Charted content := by
  obtain ⟨before, saving, later, split, done, fresh, same⟩ := left
  have shorter : before.length < past.length := by
    rw [split, List.length_append, List.length_cons]
    omega
  have next : before ++ [saving] <+: operations := by
    refine List.IsPrefix.trans ⟨later, ?_⟩ isPast
    rw [split, List.append_assoc]
    rfl
  have bound := earlier before shorter ((List.prefix_append _ _).trans next)
  rcases (bound.goes saving next done bound.charted).slots slot with unchanged | charts
  · exact absurd (funext unchanged) fresh
  · rw [bound.content] at charts
    exact charts now state ((congrFun same now).symm.trans loads)

theorem bound_of_prefix (accepted : content.Accepted) (start : s.engine.content = content)
    (none : s.engine.state = none) {operations : List Operation} (own : s.LoadsOwn operations)
    {past : List Operation} (isPast : past <+: operations) :
    Bound content operations past (s.run past) := by
  -- On how long the past is: what is loaded was saved at an earlier time.
  induction length : past.length using Nat.strongRecOn generalizing past with
  | ind n ih =>
    have earlier : ∀ before : List Operation, before.length < past.length →
        before <+: operations → Bound content operations before (s.run before) :=
      fun before shorter isBefore => ih before.length (length ▸ shorter) isBefore rfl
    have kept : (s.run past).engine.content = content ∧ (s.run past).Charted := by
      rcases List.eq_nil_or_concat' past with rfl | ⟨before, operation, rfl⟩
      · refine ⟨start, fun state isState => ?_⟩
        have isNone : (s.run []).engine.state = Option.none := none
        rw [isNone] at isState
        cases isState
      · have bound := earlier before (by simp) ((List.prefix_append _ _).trans isPast)
        rw [run_append]
        cases operation with
        | outside world => exact ⟨bound.content, bound.charted⟩
        | _ =>
          have travelled := bound.goes _ isPast rfl bound.charted
          exact ⟨travelled.content.trans bound.content, travelled.charted⟩
    refine ⟨kept.1, kept.2, fun operation isNext inside => ?_⟩
    refine journeys_of_step inside fun opening isOpening => ?_
    cases opening with
    | newGame story player => exact Opening.newGame_charts (kept.1 ▸ accepted)
    | savedGame slot =>
      intro state t found
      obtain ⟨loads, -⟩ := Opening.load_of_find found
      obtain ⟨rest, whole⟩ := isNext
      rw [isOpening, List.append_assoc] at whole
      have left := own past slot rest state whole.symm loads
      have isContent : (s.run past).stopped.engine.content = content := kept.1
      rw [isContent]
      exact charted_of_deposits isPast earlier left loads

end Sitting

/-- Whatever is done with an engine on stories that were checked, and whatever of it fails, if only
games are loaded that were saved along the way: some scene was visited, the last one is the one at
which the game stands, all are scenes of its story, and there are no more of them than progress is
measured by. -/
theorem visited_scenes_of_story {stories : List Story} {content : Repository}
    (checked : Repository.ofStories stories true = .ok content) (world : World)
    (config : EngineConfig) (audio : AudioSink) {operations : List Operation}
    (own : (Sitting.fresh world content config audio).LoadsOwn operations) {state : GameState}
    (playing : ((Sitting.fresh world content config audio).run operations).engine.state =
      some state) :
    ∃ story total, content.story state.storyId = .ok story ∧
      content.sceneCount state.storyId = .ok total ∧
      state.progress.scenesVisited ≠ [] ∧
      state.progress.scenesVisited.getLast? = some state.currentSceneId ∧
      (∀ id ∈ state.progress.scenesVisited, story.hasScene id = true) ∧
      (Turn.visitedOnce state).length ≤ total := by
  have accepted := Repository.accepted_of_ofStories checked
  have bound := Sitting.bound_of_prefix accepted rfl rfl own (List.prefix_refl operations)
  have charted : state.route.Charted content := bound.content ▸ bound.charted state playing
  obtain ⟨story, isStory, nonempty, known⟩ := charted.told
  obtain ⟨total, isTotal, fewer⟩ := charted.distinct_le
  exact ⟨story, total, isStory, isTotal, nonempty, charted.last, known, fewer⟩

namespace Harbour

theorem crossings_of_stories : Repository.ofStories [crossing] true = .ok crossings := by
  have added : ({} : Repository).add crossing true = .ok crossings := by
    rw [Repository.add, if_pos rfl, crossing_accepted]
    rfl
  rw [Repository.ofStories, List.foldlM_cons, Result.bind_of_ok added]
  rfl

/-- A game is saved on the pier and played on to the deck. -/
def boarding : List Operation :=
  [.wake, .begin (.newGame "crossing" "Ada"), .manualSave "On the pier", .choose "board"]

/-- Then it is loaded, and goes on from the pier. -/
def returning : List Operation :=
  boarding ++ [.begin (.savedGame "save_000000020000"), .choose "dare"]

def moored : Sitting :=
  Sitting.fresh { now := 1000000.0 } crossings {} {}

theorem returning_loadsOwn : moored.LoadsOwn returning := by
  intro past slot rest state whole _
  obtain ⟨rfl, rfl⟩ : past = boarding ∧ slot = "save_000000020000" := by
    unfold returning boarding at *
    simp only [List.cons_append, List.nil_append, List.cons_eq_append_iff] at whole
    simp_all
  refine ⟨[.wake, .begin (.newGame "crossing" "Ada")], .manualSave "On the pier",
    [.choose "board"], rfl, rfl, fun same => ?_, ?_⟩
  · have none : ((moored.run [.wake, .begin (.newGame "crossing" "Ada")]).gives
        "save_000000020000" 1000000.0).toOption = none := by
      decide +kernel
    have some : (((moored.run [.wake, .begin (.newGame "crossing" "Ada")]).step
        (.manualSave "On the pier")).gives "save_000000020000" 1000000.0).toOption.isSome = true := by
      decide +kernel
    rw [same, none] at some
    cases some
  · have store : (moored.run boarding).world.store =
        ((moored.run [.wake, .begin (.newGame "crossing" "Ada")]).step
          (.manualSave "On the pier")).world.store := by
      decide +kernel
    unfold Sitting.gives
    rw [store]

end Harbour

open Harbour in
/-- The deck was not visited in the game that was loaded. -/
theorem pier_visited_twice_after_return :
    Repository.ofStories [crossing] true = .ok crossings ∧ moored.LoadsOwn returning ∧
      ∃ state, (moored.run returning).engine.state = some state ∧
        state.progress.scenesVisited = ["pier", "pier"] ∧ state.currentSceneId = "pier" ∧
        crossing.hasScene "pier" = true ∧ (Turn.visitedOnce state).length ≤ 3 := by
  have visited : (moored.run returning).engine.state.map GameState.route =
      some ⟨"crossing", "pier", ["pier", "pier"]⟩ := by
    decide +kernel
  obtain ⟨state, playing, route⟩ := Option.map_eq_some_iff.1 visited
  have isCrossing : state.storyId = "crossing" := congrArg Route.story route
  have isVisited : state.progress.scenesVisited = ["pier", "pier"] := congrArg Route.visited route
  have own := returning_loadsOwn
  unfold moored at own playing ⊢
  obtain ⟨story, total, isStory, isTotal, -, last, known, fewer⟩ := visited_scenes_of_story
    crossings_of_stories { now := 1000000.0 } {} {} own playing
  rw [isCrossing] at isStory isTotal
  obtain rfl : crossing = story := Except.ok.inj isStory
  obtain rfl : 3 = total := Except.ok.inj isTotal
  rw [isVisited] at last known
  exact ⟨crossings_of_stories, own, state, playing, isVisited,
    (Option.some.inj last).symm, known "pier" (by simp), fewer⟩

end InteractiveFiction
