import InteractiveFiction.Proofs.Engine.Offer

/-!
Where entries, choices and openings take the scenery of an engine.

* `Entry id mode before r after`: an entry into a scene ends with `r` and takes the scenery from
  `before` to `after`; there are four ways for that (`entry_of_enterScene`).
* `Choosing id s r after`: so does a choice; the entry it leads to goes to the target of what was
  committed, and may be put back (`choosing_of_makeChoice`).
* `Starting opening s r t`: so does the opening of a game (`starting_of_turn`).

What is shown is drawn from the story of the place: its scene is one of the story's scenes, and the
choices that are offered are among the story's choices (`Presents`).
-/

set_option autoImplicit false

namespace InteractiveFiction

open Course

/-- The engine without who is there, and the place of its game. -/
abbrev Scenery := Engine × Option Place

/-- The engine without what was announced and played, who is there and the state of the game. -/
def Engine.outline (engine : Engine) : Engine :=
  { engine.bare with cast := {} }

/-! ## What is shown is of a story -/

/-- A scene of a story, with choices of that story. -/
structure PresentedScene.IsOf (presented : PresentedScene) (story : Story) : Prop where
  scene : presented.scene ∈ story.scenes
  choices : ∀ offered ∈ presented.choices, offered.choice ∈ story.choices

/-- The place of the scenery is in a story of the library. -/
def Plays (story : Story) (scenery : Scenery) : Prop :=
  ∃ place, scenery.2 = some place ∧ scenery.1.content.story place.story = .ok story

/-- A scene that the story of the place has, with what that story offers in it. -/
def Presents (id : Document) (presented : PresentedScene) (scenery : Scenery) : Prop :=
  presented.scene.id = id ∧ ∃ story, Plays story scenery ∧ presented.IsOf story

namespace Repository

variable {content : Repository} {story id : Document}

theorem mem_of_scene {scene : Scene} (found : content.scene story id = .ok scene) :
    ∃ told, content.story story = .ok told ∧ scene ∈ told.scenes := by
  obtain ⟨told, isStory, looked⟩ := Result.ok_of_bind found
  exact ⟨told, isStory, List.mem_of_find?_eq_some (record_of_find looked)⟩

theorem mem_of_choices {ids : List Document} {authored : List Choice}
    (found : content.choices story ids = .ok authored) :
    ∃ told, content.story story = .ok told ∧ ∀ choice ∈ authored, choice ∈ told.choices := by
  obtain ⟨told, isStory, looked⟩ := Result.ok_of_bind found
  refine ⟨told, isStory, fun choice mem => ?_⟩
  rw [records_of_collect looked] at mem
  obtain ⟨id, -, known⟩ := List.mem_filterMap.1 mem
  exact List.mem_of_find?_eq_some known

end Repository

theorem PresentedScene.UpToDate.isOf {presented : PresentedScene} {content : Repository}
    {now : Instant} {state : GameState} (h : presented.UpToDate content now state) :
    ∃ story, content.story state.storyId = .ok story ∧ presented.IsOf story := by
  obtain ⟨story, isStory, mem⟩ := Repository.mem_of_scene h.scene
  obtain ⟨authored, isAuthored, opened⟩ := Result.ok_of_bind h.choices
  obtain ⟨story', isStory', own⟩ := Repository.mem_of_choices isAuthored
  rw [isStory] at isStory'
  cases isStory'
  refine ⟨story, isStory, mem, fun offered among => ?_⟩
  have isOpen := Except.ok.inj opened
  have listed : offered.choice ∈ presented.choices.map PresentedChoice.choice :=
    List.mem_map_of_mem among
  rw [← isOpen] at listed
  exact own _ ((List.mem_filter.1 listed).1)

/-- Which story is played does not depend on where the game stands in it. -/
theorem Plays.of_moved {id : Document} {story : Story} {scenery : Scenery}
    (h : Plays story (movedScenery id scenery)) : Plays story scenery := by
  obtain ⟨place, isPlace, isStory⟩ := h
  obtain ⟨before, isBefore, rfl⟩ := Option.map_eq_some_iff.1 isPlace
  exact ⟨before, isBefore, isStory⟩

namespace Turn

theorem scene_of_arrive {id : Document} {mode : EntryMode} {scene : Scene} {s t : Sitting}
    {presented : PresentedScene} (arrived : outcome (arrive id mode scene) s = (.ok presented, t)) :
    presented.scene = scene := by
  obtain ⟨shown, s₁, reached, shows⟩ := ok_of_outcome_bind arrived
  have rendered := scene_of_renderScene (rendered_of_reach reached)
  cases shows
  exact rendered

theorem presents_of_arrive {id : Document} {mode : EntryMode} {scene : Scene} {s t : Sitting}
    {presented : PresentedScene} {now : Instant} {state : GameState}
    (isState : s.engine.state = some state)
    (found : s.engine.content.scene state.storyId id = .ok scene)
    (arrived : outcome (arrive id mode scene) s = (.ok presented, t))
    (scenery : t.scenery = shownScenery presented now (movedScenery id s.scenery))
    (shows : presented.scene.id = id) : Presents id presented s.scenery := by
  obtain ⟨-, left, isLeft, upToDate⟩ := offers_of_arrive isState rfl found arrived
  obtain ⟨story, isStory, isOf⟩ := upToDate.isOf
  have plays : Plays story t.scenery := by
    refine ⟨left.place, ?_, isStory⟩
    rw [Sitting.scenery, Engine.place, isLeft]
    rfl
  rw [scenery] at plays
  exact ⟨shows, story, Plays.of_moved plays, isOf⟩

end Turn

/-! ## Entries -/

/-- The scenery once the effects of the scene wait that wait for their time. -/
def awaitingScenery (delayed : Option DelayedEffect) (elapsed : Float) (scenery : Scenery) :
    Scenery :=
  ({ scenery.1 with delayed }.arm elapsed, scenery.2)

/-- What waits once a scene is entered. -/
def Turn.EntryMode.delayed (mode : Turn.EntryMode) (presented : PresentedScene) :
    Option DelayedEffect :=
  if mode.applyEffects then presented.scene.timeEffects else none

/-- How an entry into a scene ends, and what it makes of the scenery. -/
inductive Entry (id : Document) (mode : Turn.EntryMode) (before : Scenery) :
    Except Fault PresentedScene → Scenery → Prop where
  | turnedAway (fault : Fault) : Entry id mode before (.error fault) before
  | stranded (fault : Fault) : Entry id mode before (.error fault) (movedScenery id before)
  | unsettled (fault : Fault) (presented : PresentedScene) (now : Instant)
    (presents : Presents id presented before) :
    Entry id mode before (.error fault) (shownScenery presented now (movedScenery id before))
  | arrived (presented : PresentedScene) (now : Instant) (elapsed : Float)
    (presents : Presents id presented before) :
    Entry id mode before (.ok presented) (awaitingScenery (mode.delayed presented) elapsed
      (shownScenery presented now (movedScenery id before)))

namespace Engine

variable (engine : Engine) (elapsed : Float)

theorem outline_arm : (engine.arm elapsed).outline = engine.outline.arm elapsed := by
  unfold arm
  have same : engine.outline.isArmed = engine.isArmed := rfl
  cases waiting : engine.delayed with
  | none => simp [outline, bare, waiting]
  | some delayed =>
    have waits : engine.outline.delayed = some delayed := waiting
    rw [waits, same]
    dsimp only
    split <;> rfl

theorem place_arm : (engine.arm elapsed).place = engine.place :=
  (congrArg place (untimed_arm engine elapsed) :)

theorem arm_of_none {engine : Engine} (h : engine.delayed = none) (elapsed : Float) :
    engine.arm elapsed = engine := by
  unfold arm
  rw [h]

end Engine

namespace Turn

/-- What waits is set last, and nothing waits where nothing is set. -/
theorem scenery_of_settleIn {id : Document} {mode : EntryMode} {scene : Scene}
    {presented other : PresentedScene} {s t : Sitting} (shows : presented.scene = scene)
    (none : s.scenery.1.delayed = none)
    (settled : outcome (settleIn id mode scene presented) s = (.ok other, t)) :
    ∃ elapsed, t.scenery = awaitingScenery (mode.delayed presented) elapsed s.scenery := by
  obtain ⟨_, s₁, counted, later⟩ := ok_of_outcome_bind settled
  have kept : s₁.scenery = s.scenery :=
    scenery_of_footing ((countVisit_steady id presented).of_outcome counted).1
  subst shows
  split at later
  · rename_i delays
    have applies : mode.applyEffects = true := by simp_all
    cases later
    refine ⟨s₁.world.elapsed, ?_⟩
    rw [awaitingScenery, EntryMode.delayed, if_pos applies, ← kept]
    exact Prod.ext (Engine.outline_arm _ _) (Engine.place_arm _ _)
  · rename_i stays
    cases later
    have nothing : mode.delayed presented = Option.none := by
      unfold EntryMode.delayed
      split <;> simp_all
    refine ⟨0, ?_⟩
    rw [awaitingScenery, nothing, kept, Engine.arm_of_none rfl, ← none]

theorem entry_of_enterScene {id : Document} {mode : EntryMode} {s t : Sitting}
    {r : Except Fault PresentedScene} (ends : outcome (enterScene id mode) s = (r, t)) :
    Entry id mode s.scenery r t.scenery := by
  rw [enterScene_eq] at ends
  have left := after_approach id mode s
  rcases approached : outcome (approach id mode) s with ⟨r₁, s₁⟩
  rw [after, approached] at left
  cases r₁ with
  | error fault =>
    rw [outcome_bind_of_error approached] at ends
    cases ends
    have kept : t.scenery = s.scenery := by
      dsimp only at left
      rw [left]
      exact scenery_of_footing (sweep_steady.keeps s)
    rw [kept]
    exact .turnedAway fault
  | ok scene =>
    rw [outcome_bind_of_ok approached] at ends
    obtain ⟨kept, known, same⟩ := approached_ends approached
    obtain ⟨state, isState, found⟩ := scene_of_approach approached
    rcases arrived : outcome (arrive id mode scene) s₁ with ⟨r₂, s₂⟩
    have reached := arrive_ends known same arrived
    cases r₂ with
    | error fault =>
      rw [outcome_bind_of_error arrived] at ends
      cases ends
      rw [reached.2, kept]
      exact .stranded fault
    | ok presented =>
      rw [outcome_bind_of_ok arrived] at ends
      obtain ⟨shows, now, shown⟩ := reached
      have presents := presents_of_arrive isState found arrived shown shows
      rw [kept] at presents shown
      cases r with
      | error fault =>
        have unsettled := (footing_of_unsettled ends).1
        rw [scenery_of_footing unsettled, shown]
        exact .unsettled fault presented now presents
      | ok other =>
        obtain rfl := presented_of_settleIn ends
        have nothing : s₂.scenery.1.delayed = none := by
          rw [shown]
          rfl
        obtain ⟨elapsed, settled⟩ := scenery_of_settleIn (scene_of_arrive arrived) nothing ends
        rw [settled, shown]
        exact .arrived other now elapsed presents

end Turn

theorem Entry.presents {id : Document} {mode : Turn.EntryMode} {before after : Scenery}
    {presented : PresentedScene} (entry : Entry id mode before (.ok presented) after) :
    Presents id presented before := by
  cases entry with
  | arrived presented now elapsed presents => exact presents

/-- An entry never leaves a game nowhere. -/
theorem Entry.placed {id : Document} {mode : Turn.EntryMode} {before after : Scenery}
    {r : Except Fault PresentedScene} (entry : Entry id mode before r after) {place : Place}
    (h : before.2 = some place) : ∃ place', after.2 = some place' := by
  have moved : (movedScenery id before).2 = some { place with scene := id } := by
    rw [movedScenery, h]
    rfl
  cases entry with
  | turnedAway fault => exact ⟨place, h⟩
  | stranded fault => exact ⟨_, moved⟩
  | unsettled fault presented now presents => exact ⟨_, moved⟩
  | arrived presented now elapsed presents => exact ⟨_, moved⟩

/-! ## Choices -/

/-- How a choice ends, and what it makes of the scenery. -/
inductive Choosing (id : Document) (s : Sitting) : Except Fault ChoiceOutcome → Scenery → Prop where
  | refused (fault : Fault) : Choosing id s (.error fault) s.scenery
  | ended (r : Except Fault ChoiceOutcome) (running : s.engine.status = .running)
    (leaves : ∀ made, r = .ok made → made.scene = none) : Choosing id s r s.concluded.scenery
  | led {commitment : Commitment} {s₁ : Sitting} {presented : PresentedScene} {after : Scenery}
    (made : ChoiceOutcome) (running : s.engine.status = .running)
    (committed : outcome (Turn.commit id) s = (.ok commitment, s₁))
    (truthy : commitment.target.isTruthy = true)
    (entry : Entry commitment.target {} s.scenery (.ok presented) after)
    (leads : made.scene = some presented) : Choosing id s (.ok made) after
  | failed {commitment : Commitment} {s₁ : Sitting} {after : Scenery} (fault : Fault)
    (running : s.engine.status = .running)
    (committed : outcome (Turn.commit id) s = (.ok commitment, s₁))
    (truthy : commitment.target.isTruthy = true)
    (entry : Entry commitment.target {} s.scenery (.error fault) after) :
    Choosing id s (.error fault) after
  | putBack {commitment : Commitment} {s₁ : Sitting} {after : Scenery} (fault : Fault)
    (running : s.engine.status = .running)
    (committed : outcome (Turn.commit id) s = (.ok commitment, s₁))
    (truthy : commitment.target.isTruthy = true)
    (entry : Entry commitment.target {} s.scenery (.error fault) after) :
    Choosing id s (.error fault) (after.1, s.scenery.2)

theorem Sitting.scenery_blame (s : Sitting) (operation : String) (fault : Fault) :
    (s.blame operation fault).scenery = s.scenery :=
  Turn.scenery_of_footing (s.footing_blame operation fault)

namespace Turn

theorem scenery_of_putBack {s t : Sitting} {before : GameState}
    (isBefore : s.engine.state = some before) {place : Place} (placed : t.scenery.2 = some place) :
    (t.putBack before).scenery = (t.scenery.1, s.scenery.2) := by
  obtain ⟨state, isState, -⟩ := Engine.state_of_place placed
  have back : (t.putBack before).engine.place = s.engine.place := by
    simp [Sitting.putBack, Engine.place, isState, isBefore]
  exact Prod.ext rfl back

/-- The end of a story concludes the scenery, whatever fails then. -/
theorem scenery_of_endGame {s s₁ t : Sitting} {event : Event} {r : Except Fault Unit}
    (kept : s₁.footing = s.footing) (inGame : s₁.engine.status ≠ .ended)
    (ends : outcome endGame (s₁.announce event) = (r, t)) : t.scenery = s.concluded.scenery := by
  have inGame' : (s₁.announce event).engine.status ≠ .ended := inGame
  have gone : t.scenery = (s₁.announce event).concluded.scenery :=
    scenery_of_footing (endGame_leaves inGame' ends).1
  have same : (s₁.announce event).concluded.scenery = s.concluded.scenery :=
    congrArg (fun footing : Engine × Option Place =>
      ({ footing.1 with status := .ended, timers := [], cast := {} }, footing.2)) kept
  exact gone.trans same

theorem choosing_of_conclusion {id : Document} {s s₁ t : Sitting} {commitment : Commitment}
    {r : Except Fault ChoiceOutcome} (running : s.engine.status = .running)
    (committed : outcome (commit id) s = (.ok commitment, s₁))
    (conclusion : Conclusion id commitment s₁ r t) : Choosing id s r t.scenery := by
  obtain ⟨backstage, isBefore⟩ := commit_ends committed
  have footing : s₁.footing = s.footing := congrArg Prod.fst backstage
  have kept : s₁.scenery = s.scenery := scenery_of_footing footing
  have inGame := inGame_of_commit running committed
  cases conclusion with
  | led truthy entered =>
    have entry := entry_of_enterScene entered
    rw [kept] at entry
    exact .led _ running committed truthy entry rfl
  | @unfollowed s₂ fault truthy unentered =>
    have entry := entry_of_enterScene unentered
    rw [kept] at entry
    have isPlace : s.scenery.2 = some commitment.before.place := by
      rw [Sitting.scenery, Engine.place, isBefore]
      rfl
    obtain ⟨place, placed⟩ := entry.placed isPlace
    split
    · rw [scenery_of_putBack isBefore placed]
      exact .putBack fault running committed truthy entry
    · exact .failed fault running committed truthy entry
  | ended closed =>
    rw [scenery_of_endGame footing inGame closed]
    refine .ended (.ok _) running fun made isMade => ?_
    rw [← Except.ok.inj isMade]
  | unended unclosed =>
    rw [scenery_of_endGame footing inGame unclosed]
    refine .ended (.error _) running fun made isMade => ?_
    cases isMade

theorem choosing_of_makeChoice {id : Document} {s t : Sitting} {r : Except Fault ChoiceOutcome}
    (ends : outcome (makeChoice id) s = (r, t)) : Choosing id s r t.scenery := by
  cases r with
  | ok made =>
    obtain ⟨running, commitment, s₁, committed, conclusion⟩ := conclusion_of_makeChoice ends
    exact choosing_of_conclusion running committed conclusion
  | error fault =>
    obtain ⟨s', unmade, rfl⟩ := unmade_of_makeChoice ends
    rw [Sitting.scenery_blame]
    cases unmade with
    | idle other fault => exact .refused _
    | uncommitted running uncommitted =>
      rw [scenery_of_footing (congrArg Prod.fst (commit_ends uncommitted).1)]
      exact .refused fault
    | unconcluded running committed conclusion =>
      exact choosing_of_conclusion running committed conclusion

theorem entry_of_navigate {id : Document} {s t : Sitting} {r : Except Fault PresentedScene}
    (ends : outcome (navigate id) s = (r, t)) :
    Entry id {} s.scenery r t.scenery ∧
      ∀ presented, r = .ok presented → s.engine.status = .running := by
  by_cases running : s.engine.status = .running
  · refine ⟨?_, fun _ _ => running⟩
    rw [navigate_of_running running] at ends
    rcases entered : outcome (enterScene id {}) s with ⟨r', s'⟩
    have entry := entry_of_enterScene entered
    cases r' with
    | ok presented =>
      rw [outcome_reporting_of_ok entered] at ends
      cases ends
      exact entry
    | error fault =>
      rw [outcome_reporting_of_error entered] at ends
      cases ends
      rw [Sitting.scenery_blame]
      exact entry
  · obtain ⟨fault, idle⟩ := navigate_of_idle running id
    rw [idle] at ends
    cases ends
    rw [Sitting.scenery_blame]
    refine ⟨.turnedAway _, fun presented arrived => ?_⟩
    cases arrived

end Turn

/-! ## Openings -/

/-- The scenery once another game was put in the place of the one there was. -/
def Sitting.replaced (s : Sitting) (state : GameState) : Scenery :=
  (s.engine.outline.stopTimers.resetScene, some state.place)

/-- How the opening of a game ends, and where. -/
inductive Starting (opening : Opening) (s : Sitting) :
    Except Fault PresentedScene → Sitting → Prop where
  | refused {t : Sitting} (fault : Fault) (asleep : s.engine.status = .uninitialized)
    (kept : t.scenery = s.scenery) : Starting opening s (.error fault) t
  | notFound {s₁ t : Sitting} (fault : Fault)
    (missing : outcome opening.find s.stopped = (.error fault, s₁))
    (kept : t.scenery = s.stopped.scenery) : Starting opening s (.error fault) t
  | failed {s₁ t : Sitting} {state : GameState} (fault : Fault)
    (found : outcome opening.find s.stopped = (.ok state, s₁))
    (entry : Entry state.currentSceneId opening.mode (s.replaced state) (.error fault) t.scenery) :
    Starting opening s (.error fault) t
  | started {s₁ t : Sitting} {state : GameState} {presented : PresentedScene} (event : Event)
    (found : outcome opening.find s.stopped = (.ok state, s₁))
    (entry : Entry state.currentSceneId opening.mode (s.replaced state) (.ok presented) t.scenery) :
    Starting opening s (.ok presented) (t.begun.announce event)

namespace Opening

theorem starting_of_turn {opening : Opening} {s t : Sitting} {r : Except Fault PresentedScene}
    (ends : outcome opening.turn s = (r, t)) : Starting opening s r t := by
  by_cases asleep : s.engine.status = .uninitialized
  · obtain ⟨fault, refused⟩ : ∃ fault, outcome opening.turn s =
        (.error fault, s.blame opening.operation fault) := turn_of_uninitialized asleep
    rw [refused] at ends
    cases ends
    exact .refused fault asleep (Sitting.scenery_blame _ _ _)
  rcases found : outcome opening.find s.stopped with ⟨r₁, s₁⟩
  have engine : s₁.engine = s.stopped.engine := (opening.find_keeps_engine.of_outcome found).1
  cases r₁ with
  | error fault =>
    have entered : outcome opening.enter s.stopped = (.error fault, s₁) := by
      unfold enter replace
      rw [outcome_bind_of_error (outcome_bind_of_error found _)]
    rw [turn_of_enter_error asleep entered] at ends
    cases ends
    refine .notFound fault found ?_
    rw [Sitting.scenery_blame]
    exact congrArg (fun engine : Engine => (engine.outline, engine.place)) engine
  | ok state =>
    let s₂ : Sitting :=
      { s₁ with engine := { s₁.engine with state := some state }.resetScene }
    have replaced : s₂.scenery = s.replaced state :=
      congrArg (fun engine : Engine => (engine.outline.resetScene, some state.place)) engine
    have put : outcome opening.replace s.stopped = (.ok state.currentSceneId, s₂) := by
      unfold replace
      rw [outcome_bind_of_ok found]
      rfl
    rcases entered : outcome (Turn.enterScene state.currentSceneId opening.mode) s₂ with ⟨r₂, s₃⟩
    have whole : outcome opening.enter s.stopped = (r₂, s₃) := by
      unfold enter
      rw [outcome_bind_of_ok put, entered]
    have entry := Turn.entry_of_enterScene entered
    rw [replaced] at entry
    cases r₂ with
    | error fault =>
      rw [turn_of_enter_error asleep whole] at ends
      cases ends
      refine .failed fault found ?_
      rw [Sitting.scenery_blame]
      exact entry
    | ok presented =>
      obtain ⟨place, placed⟩ := entry.placed rfl
      obtain ⟨left, isLeft, -⟩ := Engine.state_of_place placed
      rw [outcome_turn_of_enter_ok asleep whole isLeft] at ends
      cases ends
      exact .started _ found entry

end Opening

/-! ## Operations -/

namespace Sitting

variable (s : Sitting)

theorem starting_step (opening : Opening) :
    Starting opening s (result opening.turn s) (s.step (.begin opening)) := by
  rw [step_begin]
  exact Opening.starting_of_turn (outcome_eq opening.turn s)

theorem choosing_step (id : Document) :
    Choosing id s (result (Turn.makeChoice id) s) (s.step (.choose id)).scenery := by
  rw [step_choose]
  exact Turn.choosing_of_makeChoice (outcome_eq (Turn.makeChoice id) s)

theorem entry_step (id : Document) :
    Entry id {} s.scenery (result (Turn.navigate id) s) (s.step (.navigate id)).scenery ∧
      ∀ presented, result (Turn.navigate id) s = .ok presented → s.engine.status = .running := by
  rw [step_navigate]
  exact Turn.entry_of_navigate (outcome_eq (Turn.navigate id) s)

end Sitting

end InteractiveFiction
