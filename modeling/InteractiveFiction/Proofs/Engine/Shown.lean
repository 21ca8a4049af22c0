import InteractiveFiction.Proofs.Engine.Firing

/-!
What an engine shows is of the story it plays: the scene that is shown is one of that story's
scenes, and the choices that are offered in it are among that story's choices (`Drawn`).

That depends on no more than what is in sight: the library, the scene that is shown and the story
that is played.  Every operation keeps it, whether it fails or not (`drawn_step`), and so does every
run (`drawn_run`).
-/

set_option autoImplicit false

namespace InteractiveFiction

open Course

/-! ## In sight -/

/-- The stories there are, the scene that is shown, and the story that is played. -/
def sight (scenery : Scenery) : Repository × Option PresentedScene × Option Document :=
  (scenery.1.content, scenery.1.scene, scenery.2.map Place.story)

/-- The stories there are, the scene that is shown, and where the game stands. -/
def view (scenery : Scenery) : Repository × Option PresentedScene × Option Place :=
  (scenery.1.content, scenery.1.scene, scenery.2)

theorem sight_of_view {scenery other : Scenery} (h : view scenery = view other) :
    sight scenery = sight other :=
  (congrArg (fun view : Repository × Option PresentedScene × Option Place =>
    (view.1, view.2.1, view.2.2.map Place.story)) h :)

/-- What is shown, if anything is, is of the story that is played. -/
structure Drawn (content : Repository) (scenery : Scenery) : Prop where
  content : scenery.1.content = content
  shown : ∀ presented, scenery.1.scene = some presented →
    ∃ story, Plays story scenery ∧ presented.IsOf story

theorem Plays.of_sight {story : Story} {scenery other : Scenery} (h : Plays story other)
    (content : scenery.1.content = other.1.content)
    (same : scenery.2.map Place.story = other.2.map Place.story) : Plays story scenery := by
  obtain ⟨place, isPlace, isStory⟩ := h
  rw [isPlace] at same
  obtain ⟨place', isPlace', sameStory⟩ := Option.map_eq_some_iff.1 same
  refine ⟨place', isPlace', ?_⟩
  rw [content, sameStory]
  exact isStory

namespace Drawn

variable {content : Repository} {before after : Scenery}

theorem of_sight (h : Drawn content before) (same : sight after = sight before) :
    Drawn content after := by
  have isContent : after.1.content = before.1.content := congrArg Prod.fst same
  have isScene : after.1.scene = before.1.scene := congrArg (fun sight => sight.2.1) same
  have isStory : after.2.map Place.story = before.2.map Place.story :=
    congrArg (fun sight => sight.2.2) same
  refine ⟨isContent.trans h.content, fun presented shown => ?_⟩
  obtain ⟨story, plays, isOf⟩ := h.shown presented (isScene ▸ shown)
  exact ⟨story, plays.of_sight isContent isStory, isOf⟩

theorem of_presents (h : Drawn content before) {id : Document} {presented : PresentedScene}
    (presents : Presents id presented before)
    (same : sight after = (before.1.content, some presented, before.2.map Place.story)) :
    Drawn content after := by
  have isContent : after.1.content = before.1.content := congrArg Prod.fst same
  have isScene : after.1.scene = some presented := congrArg (fun sight => sight.2.1) same
  have isStory : after.2.map Place.story = before.2.map Place.story :=
    congrArg (fun sight => sight.2.2) same
  refine ⟨isContent.trans h.content, fun other shown => ?_⟩
  rw [isScene] at shown
  cases shown
  obtain ⟨-, story, plays, isOf⟩ := presents
  exact ⟨story, plays.of_sight isContent isStory, isOf⟩

theorem of_not_shown (isContent : after.1.content = content) (nothing : after.1.scene = none) :
    Drawn content after := by
  refine ⟨isContent, fun presented shown => ?_⟩
  rw [nothing] at shown
  cases shown

end Drawn

theorem story_of_moved (id : Document) (place : Option Place) :
    (place.map fun place => { place with scene := id }).map Place.story =
      place.map Place.story := by
  cases place <;> rfl

theorem view_awaiting (delayed : Option DelayedEffect) (elapsed : Float) (scenery : Scenery) :
    view (awaitingScenery delayed elapsed scenery) = view scenery := by
  have untimed := Engine.untimed_arm { scenery.1 with delayed } elapsed
  exact (congrArg (fun engine : Engine => (engine.content, engine.scene, scenery.2)) untimed :)

/-! ## Entries, choices and openings -/

/-- An entry shows what is of the story, or what was shown; that holds too if then the place from
before is put back. -/
theorem Entry.drawn {id : Document} {mode : Turn.EntryMode} {content : Repository}
    {before after : Scenery} {r : Except Fault PresentedScene}
    (entry : Entry id mode before r after) (h : Drawn content before) : Drawn content after ∧ Drawn content (after.1, before.2) := by
  have moved : (movedScenery id before).2.map Place.story = before.2.map Place.story :=
    story_of_moved id before.2
  cases entry with
  | turnedAway fault => exact ⟨h, h⟩
  | stranded fault =>
    refine ⟨h.of_sight ?_, h.of_sight rfl⟩
    rw [sight, moved]
    rfl
  | unsettled fault presented now presents =>
    refine ⟨h.of_presents presents ?_, h.of_presents presents rfl⟩
    rw [sight, shownScenery, moved]
    rfl
  | arrived presented now elapsed presents =>
    have shown : Drawn content (shownScenery presented now (movedScenery id before)) := by
      refine h.of_presents presents ?_
      rw [sight, shownScenery, moved]
      rfl
    have waits := view_awaiting (mode.delayed presented) elapsed
      (shownScenery presented now (movedScenery id before))
    refine ⟨shown.of_sight (sight_of_view waits), h.of_presents presents ?_⟩
    have isContent := congrArg Prod.fst waits
    have isScene := congrArg (fun view => view.2.1) waits
    exact Prod.ext isContent (Prod.ext isScene rfl)

theorem Choosing.drawn {id : Document} {content : Repository} {s : Sitting} {after : Scenery}
    {r : Except Fault ChoiceOutcome} (choosing : Choosing id s r after)
    (h : Drawn content s.scenery) : Drawn content after := by
  cases choosing with
  | refused fault => exact h
  | ended r running leaves => exact h.of_sight rfl
  | led made running committed truthy entry leads => exact (entry.drawn h).1
  | failed fault running committed truthy entry => exact (entry.drawn h).1
  | putBack fault running committed truthy entry => exact (entry.drawn h).2

theorem Sitting.view_begun (s : Sitting) : view s.begun.scenery = view s.scenery := by
  exact (congrArg (fun engine : Engine => (engine.content, engine.scene, engine.place))
    s.untimed_begun :)

theorem Starting.drawn {opening : Opening} {content : Repository} {s t : Sitting}
    {r : Except Fault PresentedScene} (starting : Starting opening s r t)
    (h : Drawn content s.scenery) : Drawn content t.scenery := by
  have replaced : ∀ state, Drawn content (s.replaced state) :=
    fun state => .of_not_shown h.content rfl
  cases starting with
  | refused fault asleep kept => exact kept ▸ h
  | notFound fault missing kept => exact h.of_sight (congrArg sight kept :)
  | failed fault found entry => exact (entry.drawn (replaced _)).1
  | @started _ u state presented event found entry =>
    exact (entry.drawn (replaced state)).1.of_sight (sight_of_view u.view_begun)

/-! ## Operations -/

/-- Operations that enter no scene and end no game. -/
def Operation.isStill : Operation → Bool
  | .begin _ | .shutdown | .choose _ | .navigate _ => false
  | _ => true

namespace Sitting

variable {content : Repository} {s : Sitting}

theorem view_fire (s : Sitting) (timer : Timer) : view (s.fire timer).scenery = view s.scenery := by
  obtain ⟨elapsed, frame⟩ := Turn.frame_of_fire timer s
  have scenery : (s.fire timer).scenery = (s.withEngine (s.engine.fired timer elapsed)).scenery :=
    congrArg Prod.fst frame
  have still := s.engine.untimed_fired timer elapsed
  rw [scenery]
  exact (congrArg (fun engine : Engine => (engine.content, engine.scene, engine.place)) still :)

theorem view_updateSettings (s : Sitting) (changes : Fields) :
    view (s.step (.updateSettings changes)).scenery = view s.scenery := by
  have adjusted : view (s.adjusted changes).scenery = view s.scenery := by
    have place : (s.adjusted changes).engine.place = s.engine.place := by
      unfold adjusted Engine.place
      cases s.engine.state <;> rfl
    exact Prod.ext rfl (Prod.ext rfl place)
  rcases s.frame_of_updateSettings changes with kept | changed
  · exact congrArg (fun frame => view frame.1) kept
  · split at changed
    · have begun := (s.adjusted changes).stopped.view_begun
      exact (congrArg (fun frame => view frame.1) changed).trans (begun.trans adjusted)
    · exact (congrArg (fun frame => view frame.1) changed).trans adjusted

theorem view_step_of_isStill (s : Sitting) {operation : Operation}
    (still : operation.isStill = true) : view (s.step operation).scenery = view s.scenery := by
  have like : ∀ {t : Sitting}, (s.step operation).frame = t.frame →
      view t.scenery = view s.scenery → view (s.step operation).scenery = view s.scenery :=
    fun same kept => (congrArg (fun frame => view frame.1) same).trans kept
  cases operation with
  | wake =>
    rcases s.frame_of_wake with kept | ⟨-, woken⟩
    · exact like kept rfl
    · exact like woken rfl
  | pause =>
    rcases s.frame_of_pause with kept | ⟨-, halted⟩
    · exact like kept rfl
    · exact like halted rfl
  | resume =>
    rcases s.frame_of_resume with kept | ⟨-, begun⟩
    · exact like kept rfl
    · exact like begun s.view_begun
  | updateSettings changes => exact s.view_updateSettings changes
  | pass seconds =>
    refine Turn.pass_induction (P := fun t => view t.scenery = view s.scenery) ?_ ?_ seconds rfl
    · exact fun t time kept => kept
    · exact fun t kept timer _ => (t.view_fire timer).trans kept
  | useItem | interact | applyBundle | autosave | manualSave | listSlots | outside =>
    exact like (s.step_of_isQuiet rfl) rfl
  | begin _ | shutdown | choose _ | navigate _ => cases still

theorem drawn_step (h : Drawn content s.scenery) (operation : Operation) :
    Drawn content (s.step operation).scenery := by
  have still : operation.isStill = true → Drawn content (s.step operation).scenery :=
    fun still => h.of_sight (sight_of_view (s.view_step_of_isStill still))
  cases operation with
  | shutdown =>
    rw [s.scenery_of_shutdown]
    exact .of_not_shown h.content rfl
  | begin opening => exact (s.starting_step opening).drawn h
  | choose id => exact (s.choosing_step id).drawn h
  | navigate id => exact ((s.entry_step id).1.drawn h).1
  | wake | pause | resume | useItem | interact | updateSettings | applyBundle | autosave
  | manualSave | listSlots | pass | outside => exact still rfl

/-- Whatever is done with an engine, what it shows is of the story it plays. -/
theorem drawn_run (h : Drawn content s.scenery) (operations : List Operation) :
    Drawn content (s.run operations).scenery := by
  induction operations generalizing s with
  | nil => exact h
  | cons operation operations ih => exact ih (drawn_step h operation)

end Sitting

end InteractiveFiction
