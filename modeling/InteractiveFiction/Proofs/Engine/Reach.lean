import InteractiveFiction.Proofs.Engine.Targets

/-!
A new game and the choices made in it stay among the scenes that count as reachable.

The check of a story counts as reachable where the game starts and wherever a choice may lead,
whether anybody can make that choice or not.  So whatever is chosen, and whatever else is done short
of going elsewhere, the game never stands in a scene that the check warns of, and never shows one
(`unreachable_scenes_never_current`).
-/

set_option autoImplicit false

namespace InteractiveFiction

open Course

variable {story : Story} {check : StoryCheck}

/-- The game stands in a reachable scene of the story and shows no other. -/
structure Rambles (story : Story) (scenery : Scenery) : Prop where
  stands : ∃ place, scenery.2 = some place ∧ place.story = story.id ∧
    place.scene ∈ story.reachable
  shown : ∀ presented, scenery.1.scene = some presented → presented.scene.id ∈ story.reachable

namespace Rambles

variable {before after : Scenery}

theorem of_view (h : Rambles story before) (same : view after = view before) :
    Rambles story after := by
  have isScene : after.1.scene = before.1.scene := congrArg (fun view => view.2.1) same
  have isPlace : after.2 = before.2 := congrArg (fun view => view.2.2) same
  refine ⟨?_, fun presented shown => ?_⟩
  · rw [isPlace]
    exact h.stands
  · rw [isScene] at shown
    exact h.shown presented shown

theorem moved (h : Rambles story before) {id : Document} (counted : id ∈ story.reachable) :
    Rambles story (movedScenery id before) := by
  obtain ⟨place, isPlace, isStory, -⟩ := h.stands
  refine ⟨⟨{ place with scene := id }, ?_, isStory, counted⟩, h.shown⟩
  rw [movedScenery, isPlace]
  rfl

theorem shows (h : Rambles story before) {presented : PresentedScene} (now : Instant)
    (counted : presented.scene.id ∈ story.reachable) :
    Rambles story (shownScenery presented now before) := by
  refine ⟨h.stands, fun other shown => ?_⟩
  have same : presented = other := Option.some.inj shown
  exact same ▸ counted

/-- The place from before may be put back. -/
theorem back (h : Rambles story after) (start : Rambles story before) :
    Rambles story (after.1, before.2) :=
  ⟨start.stands, h.shown⟩

end Rambles

theorem Entry.rambles {id : Document} {mode : Turn.EntryMode} {before after : Scenery}
    {r : Except Fault PresentedScene} (entry : Entry id mode before r after)
    (h : Rambles story before) (counted : id ∈ story.reachable) : Rambles story after := by
  cases entry with
  | turnedAway fault => exact h
  | stranded fault => exact h.moved counted
  | unsettled fault presented now presents =>
    have own : presented.scene.id ∈ story.reachable := presents.1 ▸ counted
    exact (h.moved counted).shows now own
  | arrived presented now elapsed presents =>
    have own : presented.scene.id ∈ story.reachable := presents.1 ▸ counted
    exact ((h.moved counted).shows now own).of_view (view_awaiting _ _ _)

/-! ## Choices -/

namespace Sitting

variable {content : Repository} {s : Sitting}

/-- What a choice that is committed leads to counts as reachable. -/
theorem reachable_of_commit (accepted : story.ensureValid = .ok check)
    (known : content.story story.id = .ok story) (drawn : Drawn content s.scenery)
    (h : Rambles story s.scenery) {id : Document} {commitment : Commitment} {t : Sitting}
    (committed : outcome (Turn.commit id) s = (.ok commitment, t))
    (truthy : commitment.target.isTruthy = true) : commitment.target ∈ story.reachable := by
  obtain ⟨⟨presented, shown, offered, among, same⟩, leads⟩ := Turn.leads_of_commit committed
  obtain ⟨place, isPlace, isStory, -⟩ := h.stands
  obtain ⟨told, ⟨place', isPlace', isTold⟩, isOf⟩ := drawn.shown presented shown
  have here : place' = place := Option.some.inj (isPlace'.symm.trans isPlace)
  rw [drawn.content, here, isStory, known] at isTold
  have isSame : story = told := Except.ok.inj isTold
  have mem : commitment.choice ∈ story.choices := by
    rw [isSame, ← same]
    exact isOf.choices offered among
  exact Story.reachable_of_leadsTo accepted mem leads truthy

end Sitting

theorem Choosing.rambles (accepted : story.ensureValid = .ok check) {content : Repository}
    (known : content.story story.id = .ok story) {s : Sitting} (drawn : Drawn content s.scenery)
    (h : Rambles story s.scenery) {id : Document} {r : Except Fault ChoiceOutcome} {after : Scenery}
    (choosing : Choosing id s r after) : Rambles story after := by
  cases choosing with
  | refused fault => exact h
  | ended r running leaves => exact h.of_view rfl
  | led made running committed truthy entry leads =>
    exact entry.rambles h (Sitting.reachable_of_commit accepted known drawn h committed truthy)
  | failed fault running committed truthy entry =>
    exact entry.rambles h (Sitting.reachable_of_commit accepted known drawn h committed truthy)
  | putBack fault running committed truthy entry =>
    have counted := Sitting.reachable_of_commit accepted known drawn h committed truthy
    exact (entry.rambles h counted).back h

/-! ## New games -/

namespace Opening

theorem find_newGame {s : Sitting} {story : Story} {id : Document}
    (known : s.engine.content.story id = .ok story) (player : Document) :
    ∃ state t, outcome (Opening.newGame id player).find s = (.ok state, t) ∧
      state.storyId = id ∧ state.currentSceneId = story.startingSceneId := by
  have start : s.engine.content.startingScene id = .ok story.startingSceneId := by
    rw [Repository.startingScene, Result.bind_of_ok known]
    rfl
  unfold find
  rw [outcome_bind_of_ok (Turn.outcome_engine s)]
  dsimp only
  have lifted := Turn.outcome_lift (s.engine.content.startingScene id) s
  rw [start] at lifted
  rw [start, outcome_bind_of_ok lifted]
  exact ⟨_, _, rfl, rfl, rfl⟩

end Opening

/-- However the opening ends, the new game stands where the story starts. -/
theorem Starting.rambles {s t : Sitting} {player : Document} {r : Except Fault PresentedScene}
    (initialized : s.engine.status ≠ .uninitialized)
    (known : s.engine.content.story story.id = .ok story)
    (starting : Starting (.newGame story.id player) s r t) : Rambles story t.scenery := by
  obtain ⟨state, s₁, finds, isStory, isScene⟩ :=
    Opening.find_newGame (s := s.stopped) known player
  have counted : state.currentSceneId ∈ story.reachable := by
    rw [isScene]
    exact story.starting_reachable
  have replaced : Rambles story (s.replaced state) := by
    refine ⟨⟨state.place, rfl, isStory, counted⟩, fun presented shown => ?_⟩
    cases shown
  cases starting with
  | refused fault asleep kept => exact absurd asleep initialized
  | notFound fault missing kept =>
    rw [finds] at missing
    cases missing
  | failed fault found entry =>
    rw [finds] at found
    cases found
    exact entry.rambles replaced counted
  | @started _ u state' presented event found entry =>
    rw [finds] at found
    cases found
    exact (entry.rambles replaced counted).of_view u.view_begun

/-! ## Runs -/

namespace Sitting

theorem rambles_run (accepted : story.ensureValid = .ok check) {content : Repository}
    (known : content.story story.id = .ok story) {operations : List Operation}
    (choosing : ∀ operation ∈ operations,
      operation.isStill = true ∨ ∃ choice, operation = .choose choice) {s : Sitting}
    (drawn : Drawn content s.scenery) (h : Rambles story s.scenery) :
    Rambles story (s.run operations).scenery := by
  -- On the operations, for every sitting that shows what is of its story.
  induction operations generalizing s with
  | nil => exact h
  | cons operation operations ih =>
    have stepped : Rambles story (s.step operation).scenery := by
      rcases choosing operation (List.mem_cons_self ..) with still | ⟨choice, rfl⟩
      · exact h.of_view (s.view_step_of_isStill still)
      · exact (s.choosing_step choice).rambles accepted known drawn h
    have rest : ∀ later ∈ operations, later.isStill = true ∨ ∃ choice, later = .choose choice :=
      fun later mem => choosing later (List.mem_cons_of_mem operation mem)
    exact ih rest (drawn_step drawn operation) stepped

/-- The game stands in the scene, or the scene is shown. -/
def Current (s : Sitting) (id : Document) : Prop :=
  (∃ state, s.engine.state = some state ∧ state.currentSceneId = id) ∨
    ∃ presented, s.engine.scene = some presented ∧ presented.scene.id = id

theorem reachable_of_current {s : Sitting} (h : Rambles story s.scenery) {id : Document}
    (current : s.Current id) : id ∈ story.reachable := by
  rcases current with ⟨state, isState, rfl⟩ | ⟨presented, shown, rfl⟩
  · obtain ⟨place, isPlace, -, counted⟩ := h.stands
    obtain ⟨state', isState', rfl⟩ := Engine.state_of_place isPlace
    rw [isState] at isState'
    rw [Option.some.inj isState']
    exact counted
  · exact h.shown presented shown

end Sitting

/-- After the start of a new game of an accepted story, whatever is chosen and whatever else is done
short of going elsewhere, no scene is ever current of which the check warned that it is unreachable.
Where scenes have names, the line of the warning tells which scene that is. -/
theorem unreachable_scenes_never_current (accepted : story.ensureValid = .ok check)
    {content : Repository} (known : content.story story.id = .ok story) (world : World)
    (config : EngineConfig) (audio : AudioSink) {earlier operations : List Operation}
    (awake : ((Sitting.fresh world content config audio).run earlier).engine.status ≠
      .uninitialized)
    (player : Document) (choosing : ∀ operation ∈ operations,
      operation.isStill = true ∨ ∃ choice, operation = .choose choice) :
    let s := (Sitting.fresh world content config audio).run earlier
    let t := (s.step (.begin (.newGame story.id player))).run operations
    (∃ state, t.engine.state = some state ∧ state.storyId = story.id) ∧
    (∀ scene ∈ story.scenes, unreachableLine scene.id ∈ (story.checkReachable scene).warnings →
      ¬ t.Current scene.id) ∧
    ((∀ scene ∈ story.scenes, ∃ name, scene.id = .text name) →
      ∀ scene ∈ story.scenes, unreachableLine scene.id ∈ check.warnings →
        ¬ t.Current scene.id) := by
  intro s t
  have drawn : Drawn content s.scenery := Sitting.drawn_run (Sitting.drawn_fresh _ _ _ _) earlier
  have here : s.engine.content.story story.id = .ok story := by
    have isContent : s.engine.content = content := drawn.content
    rw [isContent]
    exact known
  have started : Rambles story (s.step (.begin (.newGame story.id player))).scenery :=
    (s.starting_step (.newGame story.id player)).rambles awake here
  have reached : Rambles story t.scenery :=
    Sitting.rambles_run accepted known choosing (Sitting.drawn_step drawn _) started
  refine ⟨?_, fun scene isScene warned current => ?_, fun named scene isScene warned current => ?_⟩
  · obtain ⟨place, isPlace, isStory, -⟩ := reached.stands
    obtain ⟨state, isState, rfl⟩ := Engine.state_of_place isPlace
    exact ⟨state, isState, isStory⟩
  · have unreached := (story.mem_warnings_checkReachable.1 warned).1
    exact unreached (Sitting.reachable_of_current reached current)
  · rw [Story.check_of_ensureValid accepted] at warned
    obtain ⟨other, isOther, unreached, same⟩ :=
      (story.unreachableLine_mem_warnings_iff scene.id).1 warned
    obtain ⟨name, isName⟩ := named scene isScene
    obtain ⟨name', isName'⟩ := named other isOther
    have alike : other.id = scene.id := by
      rw [isName, isName'] at same ⊢
      exact congrArg Document.text same
    exact unreached (alike ▸ Sitting.reachable_of_current reached current)

namespace Harbour

/-- The ferry with a deck that is open to all and a reef that no choice leads to. -/
def crossing : Story :=
  { ferry with id := "crossing", scenes := [pier, { id := "deck" }, { id := "reef" }] }

theorem crossing_accepted : crossing.ensureValid = .ok crossing.check :=
  Story.ensureValid_of_valid (by decide +kernel) (by decide +kernel)

def crossings : Repository :=
  { volumes := [⟨crossing, some crossing.check⟩] }

def ashore : Sitting :=
  (Sitting.fresh { now := 1000000.0 } crossings {} {}).run [.wake]

/-- A game that is played from the pier to the deck, with some time on the way. -/
def crossed : Sitting :=
  (ashore.step (.begin (.newGame "crossing" "Ada"))).run
    [.choose "dare", .pass 6.0, .choose "board"]

end Harbour

open Harbour in
theorem reef_never_current_on_the_crossing :
    crossing.ensureValid = .ok crossing.check ∧ crossings.story crossing.id = .ok crossing ∧
      ashore.engine.status ≠ .uninitialized ∧
      unreachableLine "reef" ∈ crossing.check.warnings ∧
      crossed.Current "deck" ∧ ¬ crossed.Current "reef" := by
  have awake : ashore.engine.status ≠ .uninitialized := by decide +kernel
  have onDeck : crossed.engine.state.map GameState.currentSceneId = some "deck" := by
    decide +kernel
  have warned : unreachableLine "reef" ∈ crossing.check.warnings := by decide +kernel
  have choosing : ∀ operation ∈ [Operation.choose "dare", .pass 6.0, .choose "board"],
      operation.isStill = true ∨ ∃ choice, operation = .choose choice := by
    simp [Operation.isStill]
  obtain ⟨-, -, never⟩ := unreachable_scenes_never_current crossing_accepted
    (rfl : crossings.story crossing.id = .ok crossing) { now := 1000000.0 } {} {} awake "Ada"
    choosing
  have named : ∀ scene ∈ crossing.scenes, ∃ name, scene.id = .text name := by
    intro scene mem
    simp only [crossing, List.mem_cons, List.not_mem_nil, or_false] at mem
    rcases mem with rfl | rfl | rfl <;> exact ⟨_, rfl⟩
  have reef : ({ id := "reef" } : Scene) ∈ crossing.scenes := by simp [crossing]
  obtain ⟨state, isState, isDeck⟩ := Option.map_eq_some_iff.1 onDeck
  refine ⟨crossing_accepted, rfl, awake, warned, .inl ⟨state, isState, isDeck⟩, ?_⟩
  unfold crossed ashore
  exact never named { id := "reef" } reef warned

end InteractiveFiction
