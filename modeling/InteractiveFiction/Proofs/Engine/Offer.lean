import InteractiveFiction.Proofs.Engine.Run
import InteractiveFiction.Proofs.Engine.Scores

/-!
Which choices a scene offers, once a call has returned it.

A scene is rendered before its visit counts.  So the conditions of its choices hold in the state that
the call leaves, with the scores of before the call (`offers_by_scores_before`); by the scores that
the visit itself brings, more choices may be open than are offered
(`boast_holds_and_is_not_offered`).
-/

set_option autoImplicit false

namespace InteractiveFiction

open Course

/-! ## Choices that hold -/

/-- A condition that cannot be told does not hold. -/
def Choice.holds (now : Instant) (state : GameState) (choice : Choice) : Bool :=
  match choice.isVisible now state with
  | .ok holds => holds
  | .error _ => false

/-- The authored choices of a scene, in their order, whose conditions hold. -/
def Repository.openChoices (content : Repository) (now : Instant) (state : GameState)
    (scene : Scene) : Result (List Choice) := do
  pure ((← content.choices state.storyId scene.choiceIds).filter (Choice.holds now state))

/-- The scene at which a game stands, with the choices that are open in it. -/
structure PresentedScene.UpToDate (presented : PresentedScene) (content : Repository)
    (now : Instant) (state : GameState) : Prop where
  scene : content.scene state.storyId state.currentSceneId = .ok presented.scene
  choices : content.openChoices now state presented.scene =
    .ok (presented.choices.map PresentedChoice.choice)

theorem Choice.choice_of_present {state : GameState} {choice : Choice} {presented : PresentedChoice}
    (h : choice.present state = .ok presented) : presented.choice = choice := by
  obtain ⟨authored, -, h⟩ := Result.ok_of_bind h
  obtain ⟨text, -, h⟩ := Result.ok_of_bind h
  cases h
  rfl

theorem Scene.choices_of_presentChoices {now : Instant} {state : GameState}
    {authored : List Choice} {offered : List PresentedChoice}
    (h : presentChoices now state authored = .ok offered) :
    offered.map PresentedChoice.choice = authored.filter (Choice.holds now state) := by
  induction authored generalizing offered with
  | nil =>
    cases h
    rfl
  | cons choice authored ih =>
    unfold presentChoices at h
    cases visible : choice.isVisible now state with
    | error fault =>
      rw [visible] at h
      cases h
    | ok holds =>
      have isHolds : choice.holds now state = holds := by rw [Choice.holds, visible]
      rw [List.filter_cons, isHolds]
      rw [visible] at h
      cases holds with
      | false => exact ih h
      | true =>
        simp only [bind, Except.bind, if_true] at h
        cases shown : choice.present state with
        | error fault => simp [shown] at h
        | ok presented =>
          cases later : presentChoices now state authored with
          | error fault => simp [shown, later] at h
          | ok others =>
            rw [shown, later] at h
            cases h
            simp [Choice.choice_of_present shown, ih later]

theorem Scene.openChoices_of_render {content : Repository} {now : Instant} {state : GameState}
    {authored : List Choice} {scene : Scene} {presented : PresentedScene}
    (isAuthored : content.choices state.storyId scene.choiceIds = .ok authored)
    (h : scene.render now state authored = .ok presented) :
    content.openChoices now state presented.scene =
      .ok (presented.choices.map PresentedChoice.choice) := by
  obtain ⟨isScene, visible⟩ := parts_of_render h
  rw [isScene, Repository.openChoices, isAuthored]
  exact congrArg Except.ok (choices_of_presentChoices visible).symm

/-! ## What is offered after an entry -/

/-- The scene is shown, and up to date by scores that need not be those of the state. -/
def Sitting.Offers (t : Sitting) (scores : Scores) (presented : PresentedScene) : Prop :=
  t.engine.scene = some presented ∧ ∃ left, t.engine.state = some left ∧
    presented.UpToDate t.engine.content t.world.now (left.withScores scores)

/-- What is offered does not depend on the scores of the state. -/
theorem Sitting.Offers.of_offering {t u : Sitting} {scores : Scores} {presented : PresentedScene}
    (h : t.Offers scores presented) (same : u.offering = t.offering) :
    u.Offers scores presented := by
  obtain ⟨shown, left, isLeft, upToDate⟩ := h
  have isNow : u.world.now = t.world.now := congrArg (fun offering => offering.1) same
  have isContent : u.engine.content = t.engine.content :=
    congrArg (fun offering => offering.2.1) same
  have isShown : u.engine.scene = t.engine.scene := congrArg (fun offering => offering.2.2.1) same
  have isState : u.engine.state.map (fun state => state.withScores {}) =
      some (left.withScores {}) := by
    have := congrArg (fun offering => offering.2.2.2) same
    simpa [offering, isLeft] using this
  obtain ⟨left', isLeft', alike⟩ := Option.map_eq_some_iff.1 isState
  refine ⟨isShown.trans shown, left', isLeft', ?_⟩
  have swapped := congrArg (fun state => state.withScores scores) alike
  simp only [GameState.withScores_withScores] at swapped
  rw [isContent, isNow, swapped]
  exact upToDate

namespace Turn

theorem rendered_of_renderScene {content : Repository} {scene : Scene} {s s' : Sitting}
    {shown : PresentedScene × Instant}
    (h : outcome (renderScene content scene) s = (.ok shown, s')) :
    s' = s ∧ ∃ state authored, s.engine.state = some state ∧
      content.choices state.storyId scene.choiceIds = .ok authored ∧
      scene.render s.world.now state authored = .ok shown.1 := by
  have reads := (renderScene_reads content scene).after_eq s
  rw [after, h] at reads
  obtain ⟨state, s₁, isState, afterState⟩ := ok_of_outcome_bind h
  obtain ⟨now, s₂, isNow, afterNow⟩ := ok_of_outcome_bind afterState
  obtain ⟨authored, s₃, isAuthored, afterChoices⟩ := ok_of_outcome_bind afterNow
  obtain ⟨presented, s₄, rendered, shows⟩ := ok_of_outcome_bind afterChoices
  cases shows
  rw [outcome_lift] at isAuthored rendered
  cases isNow
  obtain ⟨rfl, isGame⟩ := some_of_outcome_state isState
  exact ⟨reads, state, authored, isGame, (Prod.mk.inj isAuthored).1, (Prod.mk.inj rendered).1⟩

/-- Rendering comes last. -/
theorem rendered_of_prepareScene {scene : Scene} {s s' : Sitting}
    {shown : PresentedScene × Instant} (h : outcome (prepareScene scene) s = (.ok shown, s')) :
    outcome (renderScene s.engine.content scene) s' = (.ok shown, s') := by
  have again : ∀ {content : Repository} {t : Sitting},
      outcome (renderScene content scene) t = (.ok shown, s') →
      outcome (renderScene content scene) s' = (.ok shown, s') := by
    intro content t rendered
    obtain ⟨rfl, -⟩ := rendered_of_renderScene rendered
    exact rendered
  obtain ⟨engine, s₁, isEngine, afterEngine⟩ := ok_of_outcome_bind h
  cases isEngine
  obtain ⟨state, s₂, -, afterState⟩ := ok_of_outcome_bind afterEngine
  obtain ⟨characters, s₃, -, afterCharacters⟩ := ok_of_outcome_bind afterState
  obtain ⟨_, s₄, -, afterCast⟩ := ok_of_outcome_bind afterCharacters
  obtain ⟨state', s₅, -, afterMusic⟩ := ok_of_outcome_bind afterCast
  split at afterMusic
  · obtain ⟨_, s₆, -, shows⟩ := ok_of_outcome_bind afterMusic
    exact again shows
  · exact again afterMusic

theorem rendered_of_reach {id : Document} {mode : EntryMode} {scene : Scene} {s s' : Sitting}
    {shown : PresentedScene × Instant} (h : outcome (reach id mode scene) s = (.ok shown, s')) :
    outcome (renderScene s'.engine.content scene) s' = (.ok shown, s') := by
  have prepared : ∀ {t : Sitting}, outcome (prepareScene scene) t = (.ok shown, s') →
      outcome (renderScene s'.engine.content scene) s' = (.ok shown, s') := by
    intro t prepares
    have kept := ((prepareScene_keepsScores scene).of_outcome prepares).1
    have isContent : s'.engine.content = t.engine.content := congrArg Prod.fst kept
    rw [isContent]
    exact rendered_of_prepareScene prepares
  obtain ⟨_, s₁, -, afterMove⟩ := ok_of_outcome_bind h
  split at afterMove
  · obtain ⟨_, s₂, -, prepares⟩ := ok_of_outcome_bind afterMove
    exact prepared prepares
  · exact prepared afterMove

theorem offers_of_arrive {id : Document} {mode : EntryMode} {scene : Scene} {s t : Sitting}
    {presented : PresentedScene} {scores : Scores} {state : GameState}
    (isState : s.engine.state = some state) (isScores : state.scores = scores)
    (found : s.engine.content.scene state.storyId id = .ok scene)
    (arrived : outcome (arrive id mode scene) s = (.ok presented, t)) :
    t.Offers scores presented := by
  have known : Knows id s.scenery :=
    ⟨state.place, scene, by rw [Sitting.scenery, Engine.place, isState]; rfl, found⟩
  have same : scene.id = id := Repository.scene_of_ok found
  obtain ⟨shown, s₁, reached, shows⟩ := ok_of_outcome_bind arrived
  have rendered := rendered_of_reach reached
  obtain ⟨-, left, authored, isLeft, isAuthored, renders⟩ := rendered_of_renderScene rendered
  obtain ⟨scenery, -⟩ := reach_ends known same reached
  obtain ⟨tally, -⟩ := (reach_keepsScores id mode scene).of_outcome reached
  have isContent : s₁.engine.content = s.engine.content := congrArg Prod.fst tally
  have kept : left.scores = scores := by
    have := congrArg Prod.snd tally
    simpa [Sitting.tally, isLeft, isState, isScores] using this
  have isPlace : left.place = { state.place with scene := id } := by
    have := congrArg Prod.snd scenery
    simpa [Sitting.scenery, movedScenery, Engine.place, isLeft, isState] using this
  cases shows
  -- the state that is left is the one that was rendered, whose scores are still those from before
  refine ⟨rfl, left, isLeft, ?_⟩
  rw [← kept, GameState.withScores_scores]
  refine ⟨?_, ?_⟩
  · have isStory : left.storyId = state.storyId := congrArg Place.story isPlace
    have isHere : left.currentSceneId = id := congrArg Place.scene isPlace
    rw [isStory, isHere, Scene.scene_of_render renders]
    exact (congrArg (fun content => content.scene state.storyId id) isContent).trans found
  · exact Scene.openChoices_of_render isAuthored renders

/-- An entry offers what is open by the scores from before it. -/
theorem offers_of_enterScene {id : Document} {mode : EntryMode} {s t : Sitting}
    {presented : PresentedScene} (entered : outcome (enterScene id mode) s = (.ok presented, t)) :
    ∃ scores, s.engine.state.map GameState.scores = some scores ∧ t.Offers scores presented := by
  rw [enterScene_eq] at entered
  obtain ⟨scene, s₁, approached, afterApproach⟩ := ok_of_outcome_bind entered
  obtain ⟨shown, s₂, arrived, settled⟩ := ok_of_outcome_bind afterApproach
  obtain rfl := presented_of_settleIn settled
  obtain ⟨tally, -⟩ := (approach_keepsScores id mode).of_outcome approached
  obtain ⟨state, isState, found⟩ := scene_of_approach approached
  have isScores : s₁.engine.state.map GameState.scores = s.engine.state.map GameState.scores :=
    congrArg Prod.snd tally
  refine ⟨state.scores, ?_, ?_⟩
  · rw [← isScores, isState]
    rfl
  · have offers := offers_of_arrive isState rfl found arrived
    exact offers.of_offering ((settleIn_keepsOffer id mode scene presented).of_outcome settled).1

theorem offers_of_navigate {id : Document} {s t : Sitting} {presented : PresentedScene}
    (navigated : outcome (navigate id) s = (.ok presented, t)) :
    ∃ scores, s.engine.state.map GameState.scores = some scores ∧ t.Offers scores presented := by
  by_cases running : s.engine.status = .running
  · rw [navigate_of_running running] at navigated
    exact offers_of_enterScene (ok_of_reporting navigated)
  · obtain ⟨fault, idle⟩ := navigate_of_idle running id
    rw [idle] at navigated
    cases navigated

/-- What a choice does before it leads somewhere changes no scores. -/
theorem offers_of_makeChoice {id : Document} {s t : Sitting} {made : ChoiceOutcome}
    {presented : PresentedScene} (chosen : outcome (makeChoice id) s = (.ok made, t))
    (led : made.scene = some presented) :
    ∃ scores, s.engine.state.map GameState.scores = some scores ∧ t.Offers scores presented := by
  obtain ⟨-, commitment, s₁, committed, conclusion⟩ := conclusion_of_makeChoice chosen
  obtain ⟨tally, -⟩ := (commit_keepsScores id).of_outcome committed
  cases conclusion with
  | led truthy entered =>
    cases led
    obtain ⟨scores, isScores, offers⟩ := offers_of_enterScene entered
    have same : s₁.engine.state.map GameState.scores = s.engine.state.map GameState.scores :=
      congrArg Prod.snd tally
    exact ⟨scores, same.symm.trans isScores, offers.of_offering rfl⟩
  | ended closed => cases led

end Turn

/-! ## What is offered when a game starts -/

theorem Sitting.offering_begun (s : Sitting) : s.begun.offering = s.offering := by
  have untimed := Engine.untimed_startTimers { s.engine with status := .running } s.world.elapsed
  exact (congrArg (fun engine : Engine => Sitting.offering { s with engine }) untimed :)

theorem Opening.scores_of_find {story player : Document} {s t : Sitting} {state : GameState}
    (found : outcome (Opening.newGame story player).find s = (.ok state, t)) :
    state.scores = {} := by
  obtain ⟨engine, s₁, -, afterEngine⟩ := ok_of_outcome_bind found
  obtain ⟨start, s₂, -, afterStart⟩ := ok_of_outcome_bind afterEngine
  obtain ⟨_, s₃, -, afterIssue⟩ := ok_of_outcome_bind afterStart
  obtain ⟨world, s₄, -, afterWorld⟩ := ok_of_outcome_bind afterIssue
  obtain ⟨engine', s₅, -, made⟩ := ok_of_outcome_bind afterWorld
  cases made
  rfl

theorem Turn.offers_of_startNewGame {story player : Document} {s t : Sitting}
    {presented : PresentedScene}
    (started : outcome (startNewGame story player) s = (.ok presented, t)) :
    t.Offers {} presented := by
  have opened : outcome (Opening.newGame story player).turn s = (.ok presented, t) := started
  obtain ⟨state, s₁, s₂, game, found, entered, rfl⟩ := Opening.entered_of_turn opened
  obtain ⟨scores, isScores, offers⟩ := offers_of_enterScene entered
  obtain rfl : state.scores = scores := Option.some.inj isScores
  rw [Opening.scores_of_find found] at offers
  exact offers.of_offering s₂.offering_begun

/-! ## Calls that return a scene -/

inductive SceneCall where
  | start (story player : Document)
  | choose (choice : Document)
  | navigate (scene : Document)

namespace SceneCall

/-- A choice that ends the story gives no scene. -/
def turn : SceneCall → Turn (Option PresentedScene)
  | start story player => do pure (some (← Turn.startNewGame story player))
  | choose choice => do pure (← Turn.makeChoice choice).scene
  | navigate scene => do pure (some (← Turn.navigate scene))

def shown? (call : SceneCall) (s : Sitting) : Option PresentedScene :=
  match result call.turn s with
  | .ok shown => shown
  | .error _ => none

/-- The scores at the time of a call: a new game has none. -/
def scores (call : SceneCall) (s : Sitting) : Scores :=
  match call with
  | start .. => {}
  | choose _ | navigate _ => (s.engine.state.map GameState.scores).getD {}

theorem outcome_of_shown? {call : SceneCall} {s : Sitting} {presented : PresentedScene}
    (h : call.shown? s = some presented) :
    outcome call.turn s = (.ok (some presented), after call.turn s) := by
  unfold shown? at h
  cases hr : result call.turn s with
  | error fault =>
    rw [hr] at h
    cases h
  | ok shown =>
    rw [hr] at h
    exact Prod.ext (hr.trans (congrArg Except.ok h)) rfl

theorem offers_of_turn {call : SceneCall} {s t : Sitting} {presented : PresentedScene}
    (ends : outcome call.turn s = (.ok (some presented), t)) :
    t.Offers (call.scores s) presented := by
  cases call with
  | start story player =>
    obtain ⟨shown, s₁, started, gives⟩ := ok_of_outcome_bind ends
    cases gives
    exact Turn.offers_of_startNewGame started
  | choose choice =>
    obtain ⟨made, s₁, chosen, gives⟩ := ok_of_outcome_bind ends
    obtain ⟨led, rfl⟩ := Prod.mk.inj gives
    obtain ⟨scores, isScores, offers⟩ := Turn.offers_of_makeChoice chosen (Except.ok.inj led)
    rw [SceneCall.scores, isScores]
    exact offers
  | navigate scene =>
    obtain ⟨shown, s₁, navigated, gives⟩ := ok_of_outcome_bind ends
    cases gives
    obtain ⟨scores, isScores, offers⟩ := Turn.offers_of_navigate navigated
    rw [SceneCall.scores, isScores]
    exact offers

end SceneCall

/-- The scene that a call returns is the one that is shown, and the choices it offers are those that
hold in the state that is left, once that state has the scores of before the call again. -/
theorem offers_by_scores_before (call : SceneCall) (s : Sitting) {presented : PresentedScene}
    (returned : call.shown? s = some presented) :
    let t := after call.turn s
    t.engine.scene = some presented ∧ ∃ left, t.engine.state = some left ∧
      presented.UpToDate t.engine.content t.world.now (left.withScores (call.scores s)) :=
  SceneCall.offers_of_turn (SceneCall.outcome_of_shown? returned)

/-! ## A tale of one scene -/

namespace Tale

def stay : Choice where
  id := "stay"
  text := "Stay"
  target := "hut"

/-- For those who have seen all there is to see. -/
def boast : Choice where
  id := "boast"
  text := "Boast"
  target := "hut"
  conditions := .object [("storyProgress", .int 100)]

def hut : Scene where
  id := "hut"
  title := "Hut"
  content := "A hut."
  choiceIds := ["stay", "boast"]

def story : Story where
  id := "tale"
  title := "The tale"
  startingSceneId := "hut"
  scenes := [hut]
  choices := [stay, boast]

def awake : Sitting :=
  (Sitting.fresh { now := 1000000.0 } { volumes := [⟨story, none⟩] } {} {}).step .wake

/-- The first call comes to a tale that has just begun, the second to one that is complete. -/
def begun : Sitting :=
  after (SceneCall.start "tale" "Ada").turn awake

end Tale

/-- Once the tale is complete, a player who stays may boast. -/
theorem boast_offered_after_staying :
    ∃ presented, (SceneCall.choose "stay").shown? Tale.begun = some presented ∧
      presented.choices.map PresentedChoice.choice = [Tale.stay, Tale.boast] ∧
      let t := after (SceneCall.choose "stay").turn Tale.begun
      t.engine.scene = some presented ∧ ∃ left, t.engine.state = some left ∧
        presented.UpToDate t.engine.content t.world.now
          (left.withScores { storyProgress := 100 }) := by
  have offered : ((SceneCall.choose "stay").shown? Tale.begun).map
      (fun presented => presented.choices.map PresentedChoice.choice) =
        some [Tale.stay, Tale.boast] := by
    decide +kernel
  have isScores : (SceneCall.choose "stay").scores Tale.begun = { storyProgress := 100 } := by
    decide +kernel
  obtain ⟨presented, returned, isOffered⟩ := Option.map_eq_some_iff.1 offered
  have upToDate := offers_by_scores_before (.choose "stay") Tale.begun returned
  rw [isScores] at upToDate
  exact ⟨presented, returned, isOffered, upToDate⟩

/-- The start of the tale completes it, so that a boast holds, which is not offered. -/
theorem boast_holds_and_is_not_offered :
    ∃ presented left, (SceneCall.start "tale" "Ada").shown? Tale.awake = some presented ∧
      Tale.begun.engine.scene = some presented ∧ Tale.begun.engine.state = some left ∧
      presented.choices.map PresentedChoice.choice = [Tale.stay] ∧
      Tale.boast.holds Tale.begun.world.now left = true ∧
      ¬ presented.UpToDate Tale.begun.engine.content Tale.begun.world.now left := by
  have returned : (SceneCall.start "tale" "Ada").shown? Tale.awake = Tale.begun.engine.scene := by
    decide +kernel
  have offered : Tale.begun.engine.scene.map (fun presented =>
      (presented.scene, presented.choices.map PresentedChoice.choice)) =
        some (Tale.hut, [Tale.stay]) := by
    decide +kernel
  have holding : Tale.begun.engine.state.map (fun left =>
      (Tale.boast.holds Tale.begun.world.now left,
        (Tale.begun.engine.content.openChoices Tale.begun.world.now left Tale.hut).toOption)) =
        some (true, some [Tale.stay, Tale.boast]) := by
    decide +kernel
  obtain ⟨presented, isShown, isOffered⟩ := Option.map_eq_some_iff.1 offered
  obtain ⟨left, isLeft, isHolding⟩ := Option.map_eq_some_iff.1 holding
  obtain ⟨isScene, isChoices⟩ := Prod.mk.inj isOffered
  obtain ⟨boastHolds, isOpen⟩ := Prod.mk.inj isHolding
  refine ⟨presented, left, returned.trans isShown, isShown, isLeft, isChoices, boastHolds, ?_⟩
  intro upToDate
  have same := congrArg Except.toOption upToDate.choices
  rw [isScene, isOpen, isChoices] at same
  cases same

end InteractiveFiction
