import InteractiveFiction.Proofs.Engine.Bookless

/-!
The pace of a running game: when playtime is counted and when the effects that wait are applied.

* `Moment`, `Sitting.follows`: what happens to a sitting, and when.  A run of an engine is such a
  course (`Sitting.Reaches.run`).
* `Parallel`: the same happens at the same times, saves that a timer made apart.
* `Sitting.Concurs`: at any time the two sittings are akin.

A change of the settings for saving sets each timer of play anew, as if the scene had been entered
and playtime been counted at that moment (`Sitting.outcome_updateSettings_of_timing`).  So the game
goes on as without the change only if the timers had been set at that very moment
(`timing_settings_unfelt_iff`).
-/

set_option autoImplicit false

namespace InteractiveFiction

open Course

/-! ## Courses -/

/-- Something that happens, with what the clock shows then and how much time has passed. -/
structure Moment where
  now : Instant
  elapsed : Float
  occurrence : Occurrence

namespace Moment

/-- A timer goes off that saves. -/
def Saves (moment : Moment) : Prop :=
  ∃ timer, moment.occurrence = .fires timer ∧ timer.kind = .autosave

/-- A saved game takes the place of the game. -/
def Loads (moment : Moment) : Prop :=
  ∃ slot instant, moment.occurrence = .does (.begin (.savedGame slot)) instant

end Moment

/-- The same happens at the same times, but that the game saves itself; and no game is loaded. -/
inductive Parallel : List Moment → List Moment → Prop where
  | nil : Parallel [] []
  | both {moment : Moment} (stays : ¬ moment.Loads) {course other : List Moment}
      (later : Parallel course other) : Parallel (moment :: course) (moment :: other)
  | here {moment : Moment} (saves : moment.Saves) {course other : List Moment}
      (later : Parallel course other) : Parallel (moment :: course) other
  | there {moment : Moment} (saves : moment.Saves) {course other : List Moment}
      (later : Parallel course other) : Parallel course (moment :: other)

namespace Sitting

def clocked (s : Sitting) (now : Instant) (elapsed : Float) : Sitting :=
  { s with world := { s.world with now, elapsed } }

def meets (s : Sitting) (moment : Moment) : Sitting :=
  (s.clocked moment.now moment.elapsed).occur moment.occurrence

def follows (s : Sitting) (course : List Moment) : Sitting :=
  course.foldl meets s

theorem follows_concat (s : Sitting) (course : List Moment) (moment : Moment) :
    s.follows (course ++ [moment]) = (s.follows course).meets moment :=
  List.foldl_concat ..

theorem exists_clocked_of_advance (s : Sitting) (time : Float) : ∃ now elapsed,
    { s with world := s.world.advanceTo time } = s.clocked now elapsed := by
  unfold World.advanceTo
  split
  · exact ⟨_, _, rfl⟩
  · exact ⟨s.world.now, s.world.elapsed, rfl⟩

/-- The sitting is left by a course, at some time. -/
def Reaches (s t : Sitting) : Prop :=
  ∃ course now elapsed, t = (s.follows course).clocked now elapsed

variable {s t : Sitting}

theorem Reaches.refl (s : Sitting) : s.Reaches s :=
  ⟨[], s.world.now, s.world.elapsed, rfl⟩

theorem Reaches.occur (h : s.Reaches t) (occurrence : Occurrence) :
    s.Reaches (t.occur occurrence) := by
  obtain ⟨course, now, elapsed, rfl⟩ := h
  let left := (s.follows course).meets ⟨now, elapsed, occurrence⟩
  refine ⟨course ++ [⟨now, elapsed, occurrence⟩], left.world.now, left.world.elapsed, ?_⟩
  rw [follows_concat]
  rfl

theorem Reaches.step (h : s.Reaches t) (operation : Operation) : s.Reaches (t.step operation) := by
  cases operation with
  | pass seconds =>
    refine Turn.pass_induction (P := s.Reaches) ?_ (fun t reached timer _ => ?_) seconds h
    · rintro t time ⟨course, now, elapsed, rfl⟩
      obtain ⟨later, more, advanced⟩ :=
        ((s.follows course).clocked now elapsed).exists_clocked_of_advance time
      exact ⟨course, later, more, advanced⟩
    · exact reached.occur (.fires timer)
  | _ => exact h.occur (.does _ rfl)

/-- A run is a course of what happens, each thing at its time. -/
theorem Reaches.run (h : s.Reaches t) (operations : List Operation) :
    s.Reaches (t.run operations) := by
  induction operations generalizing t with
  | nil => exact h
  | cons operation operations ih => exact ih (h.step operation)

/-! ## Courses side by side -/

/-- Akin, whatever the time. -/
def Concurs (s t : Sitting) : Prop :=
  ∀ now elapsed, (s.clocked now elapsed).Akin (t.clocked now elapsed)

theorem Akin.clocked (h : s.Akin t) (now : Instant) (elapsed : Float) :
    (s.clocked now elapsed).Akin (t.clocked now elapsed) := by
  cases h with
  | intro faults steady => exact .intro faults steady

theorem Akin.occur (h : s.Akin t) {moment : Moment} (stays : ¬ moment.Loads) :
    (s.occur moment.occurrence).Akin (t.occur moment.occurrence) := by
  obtain ⟨now, elapsed, occurrence⟩ := moment
  cases occurrence with
  | does operation instant =>
    have here : operation.loads = false := by
      cases operation with
      | begin opening =>
        cases opening with
        | newGame _ _ => rfl
        | savedGame slot => exact absurd ⟨slot, instant, rfl⟩ stays
      | _ => rfl
    exact Operation.turn_abreast instant here s t h
  | fires timer =>
    by_cases plays : timer.isSteady = true
    · exact h.fire plays
    · have saves : timer.isSteady = false := by simpa using plays
      exact ((s.akin_fire saves).symm.trans h).trans (t.akin_fire saves)

theorem akin_meets (s : Sitting) {moment : Moment} (saves : moment.Saves) :
    (s.clocked moment.now moment.elapsed).Akin (s.meets moment) := by
  obtain ⟨timer, fires, kind⟩ := saves
  have isSaving : timer.isSteady = false := by
    unfold Timer.isSteady
    simp [kind]
  unfold meets
  rw [fires]
  exact akin_fire _ isSaving

namespace Concurs

theorem symm (h : s.Concurs t) : t.Concurs s :=
  fun now elapsed => (h now elapsed).symm

theorem meets (h : s.Concurs t) {moment : Moment} (stays : ¬ moment.Loads) :
    (s.meets moment).Concurs (t.meets moment) :=
  fun now elapsed => ((h moment.now moment.elapsed).occur stays).clocked now elapsed

theorem meets_left (h : s.Concurs t) {moment : Moment} (saves : moment.Saves) :
    (s.meets moment).Concurs t :=
  fun now elapsed => ((s.akin_meets saves).clocked now elapsed).symm.trans (h now elapsed)

/-- What happens alike leaves the sittings akin at any time. -/
theorem follows {course other : List Moment} (parallel : Parallel course other)
    (h : s.Concurs t) : (s.follows course).Concurs (t.follows other) := by
  -- A save on one side only finds the other at an earlier time, so the sittings are compared at
  -- every time.
  induction parallel generalizing s t with
  | nil => exact h
  | both stays _ ih => exact ih (h.meets stays)
  | here saves _ ih => exact ih (h.meets_left saves)
  | there saves _ ih => exact ih (h.symm.meets_left saves).symm

end Concurs

end Sitting

/-! ## Settings for saving -/

/-- Nothing is changed but when the game is saved. -/
def TimesSaves (changes : Fields) : Prop :=
  ∀ change ∈ changes, change.1 ∈ Turn.timingSettings

namespace TimesSaves

variable {changes : Fields}

theorem known (h : TimesSaves changes) : Turn.unknownNames changes = [] := by
  have among : ∀ name ∈ Turn.timingSettings, name ∈ Settings.names := by decide
  refine List.filter_eq_nil_iff.2 fun name mem => ?_
  obtain ⟨change, isChange, rfl⟩ := List.mem_map.1 mem
  simp [among _ (h change isChange)]

theorem retimes (h : TimesSaves changes) (some : changes ≠ []) :
    Sitting.retimes changes = true := by
  obtain ⟨change, rest, rfl⟩ := List.exists_cons_of_ne_nil some
  simp [Sitting.retimes, h change List.mem_cons_self]

theorem changeAll (h : TimesSaves changes) (settings : Settings) : ∃ autosave autosaveInterval,
    settings.changeAll changes = { settings with autosave, autosaveInterval } := by
  induction changes generalizing settings with
  | nil => exact ⟨settings.autosave, settings.autosaveInterval, rfl⟩
  | cons change changes ih =>
    obtain ⟨name, value⟩ := change
    have own : ∃ autosave autosaveInterval,
        settings.change name value = { settings with autosave, autosaveInterval } := by
      have among := h (name, value) List.mem_cons_self
      simp only [Turn.timingSettings, List.mem_cons, List.not_mem_nil, or_false] at among
      rcases among with rfl | rfl
      · exact ⟨value, settings.autosaveInterval, rfl⟩
      · exact ⟨settings.autosave, value, rfl⟩
    obtain ⟨autosave, autosaveInterval, changed⟩ := own
    obtain ⟨autosave', autosaveInterval', rest⟩ :=
      ih (fun change mem => h change (List.mem_cons_of_mem _ mem)) (settings.change name value)
    refine ⟨autosave', autosaveInterval', ?_⟩
    rw [changed] at rest
    rw [Settings.changeAll, List.foldl_cons]
    dsimp only
    rw [changed]
    exact rest

end TimesSaves

namespace Engine

/-- The timers of play as they are set when a game begins to run: a whole tick of playtime is to
pass, and the whole delay of the effects that wait. -/
def renewed (engine : Engine) (elapsed : Float) : List Timer :=
  ⟨.playtime, elapsed + engine.config.playtimeTick⟩ ::
    match engine.delayed with
    | some delayed => [⟨.delayedEffects, elapsed + delayed.delay⟩]
    | none => []

theorem startTimers_of_stopped {engine : Engine} (none : engine.timers = []) (elapsed : Float) :
    ∃ left, engine.startTimers elapsed = { engine with timers := left } ∧
      steadyOf left = engine.renewed elapsed := by
  obtain ⟨left, saving, steady⟩ := steadyOf_savingItself elapsed (engine.startPlaytime elapsed)
  have ticks : (engine.startPlaytime elapsed).steady =
      [⟨.playtime, elapsed + engine.config.playtimeTick⟩] := by
    change steadyOf (engine.timers ++ _) = _
    rw [none]
    rfl
  rw [ticks] at steady
  have idle : ({ engine.startPlaytime elapsed with timers := left } : Engine).isArmed = false := by
    rw [isArmed_eq]
    change (steadyOf left).any _ = false
    rw [steady]
    rfl
  have waits : (engine.startPlaytime elapsed).delayed = engine.delayed := rfl
  rw [startTimers_eq, saving]
  unfold arm renewed
  rw [idle]
  dsimp only
  rw [waits]
  cases engine.delayed with
  | none => exact ⟨left, rfl, steady⟩
  | some delayed =>
    refine ⟨left ++ [⟨.delayedEffects, elapsed + delayed.delay⟩], rfl, ?_⟩
    rw [steadyOf_append, steady]
    rfl

end Engine

/-- The timers of play once settings for saving were changed. -/
def Sitting.schedule (s : Sitting) (changes : Fields) : List Timer :=
  if changes = [] then s.engine.steady else s.engine.renewed s.world.elapsed

namespace Turn

variable {s : Sitting}

theorem outcome_tellSettings {state : GameState} (playing : s.engine.state = some state) :
    outcome tellSettings s =
      (.ok state.settings, s.announce (.settingsUpdated state.settings.toDocument)) := by
  have here : outcome Turn.state s = (.ok state, s) := by
    rw [outcome_state, playing]
  unfold tellSettings
  rw [outcome_bind_of_ok here]
  rfl

end Turn

namespace Sitting

variable {s : Sitting} {state : GameState} {changes : Fields}

/-- Settings for saving are changed in the books, and every timer is set anew. -/
theorem retimed_of_timing (running : s.engine.status = .running)
    (playing : s.engine.state = some state) (timing : TimesSaves changes) :
    ∃ books timers, s.retimed changes =
        ⟨s.world, s.engine.rebooked books timers s.engine.published⟩ ∧
      steadyOf timers = s.schedule changes := by
  obtain ⟨autosave, autosaveInterval, changed⟩ := timing.changeAll state.settings
  let books : Books := { state.books with autosave, autosaveInterval }
  have adjusted : s.adjusted changes =
      ⟨s.world, s.engine.rebooked books s.engine.timers s.engine.published⟩ := by
    simp [Sitting.adjusted, playing, changed, books, GameState.booked, GameState.books]
  unfold retimed schedule
  by_cases none : changes = []
  · refine ⟨books, s.engine.timers, ?_, (if_pos none).symm⟩
    have idle : ¬ (s.engine.status = .running ∧ retimes changes = true) := by
      rw [none]
      exact fun both => absurd both.2 Bool.false_ne_true
    rw [if_neg idle, adjusted]
  · rw [if_pos ⟨running, timing.retimes none⟩, if_neg none, adjusted]
    let stopped := (s.engine.rebooked books s.engine.timers s.engine.published).stopTimers
    have runs : { stopped with status := .running } = stopped :=
      congrArg (fun status => { stopped with status }) running.symm
    have idle : stopped.timers = [] := rfl
    obtain ⟨left, started, steady⟩ := Engine.startTimers_of_stopped idle s.world.elapsed
    refine ⟨books, left, ?_, steady⟩
    rw [begun]
    dsimp only [Sitting.stopped]
    rw [runs, started]
    rfl

theorem outcome_updateSettings_of_timing (running : s.engine.status = .running)
    (playing : s.engine.state = some state) (timing : TimesSaves changes) :
    ∃ settings books timers published, outcome (Turn.updateSettings changes) s =
        (.ok settings, ⟨s.world, s.engine.rebooked books timers published⟩) ∧
      steadyOf timers = s.schedule changes := by
  obtain ⟨books, timers, retimed, steady⟩ := s.retimed_of_timing running playing timing
  have puts : outcome (Turn.updateSettings changes) s = outcome (Turn.putSettings changes) s := by
    rw [Turn.updateSettings_eq, outcome_bind_of_ok (outcome_requireGame_of_some playing _)]
    rw [timing.known]
    rfl
  have game : (s.retimed changes).engine.state = some (state.booked books) := by
    rw [retimed]
    exact Engine.rebooked_of_some books timers _ playing
  rw [puts, outcome_putSettings, Turn.outcome_tellSettings game, retimed]
  exact ⟨_, books, timers, _, rfl, steady⟩

theorem schedule_perm_iff : (s.schedule changes).Perm s.engine.steady ↔
    changes = [] ∨ s.engine.steady.Perm (s.engine.renewed s.world.elapsed) := by
  unfold schedule
  by_cases none : changes = []
  · simp [none]
  · simp only [none, if_false, false_or]
    exact List.perm_comm

/-- Books that are changed go unfelt as long as the timers of play stay. -/
theorem unfelt_rebooked_iff (s : Sitting) (books : Books) (timers : List Timer)
    (published : List EventRecord) :
    (∀ course other, Parallel course other → (s.follows course).Concurs
        ((⟨s.world, s.engine.rebooked books timers published⟩ : Sitting).follows other)) ↔
      (steadyOf timers).Perm s.engine.steady := by
  constructor
  · -- Sittings that are akin have the same timers of play, also before anything happens.
    intro same
    exact (same [] [] .nil s.world.now s.world.elapsed).steady
  · intro steady course other parallel
    have akin : s.Akin ⟨s.world, s.engine.rebooked books timers published⟩ :=
      .of_parts rfl rfl books rfl steady
    exact .follows parallel akin.clocked

end Sitting

/-- A running game takes settings for saving at once: of the game they change the books at most, and
each timer of play is set anew.  Whatever happens then, the game is the same at any time as without
them, if and only if the timers of play had just been set.  A run is no more than a course of what
happens. -/
theorem timing_settings_unfelt_iff {s : Sitting} {state : GameState}
    (running : s.engine.status = .running) (playing : s.engine.state = some state)
    {changes : Fields} (timing : ∀ change ∈ changes, change.1 ∈ Turn.timingSettings) :
    let t := s.step (.updateSettings changes)
    fault? (Operation.updateSettings changes).turn s = none ∧
      (∃ books, t.engine.state = some (state.booked books)) ∧
      t.engine.steady =
        (if changes = [] then s.engine.steady else s.engine.renewed s.world.elapsed) ∧
      ((∀ course other, Parallel course other → (s.follows course).Concurs (t.follows other)) ↔
        changes = [] ∨ s.engine.steady.Perm (s.engine.renewed s.world.elapsed)) ∧
      ∀ operations, s.Reaches (s.run operations) ∧ t.Reaches (t.run operations) := by
  intro t
  obtain ⟨settings, books, timers, published, updated, steady⟩ :=
    s.outcome_updateSettings_of_timing running playing timing
  have ends : outcome (Operation.updateSettings changes).turn s =
      (.ok (), ⟨s.world, s.engine.rebooked books timers published⟩) :=
    outcome_bind_of_ok updated _
  have left : t = ⟨s.world, s.engine.rebooked books timers published⟩ := congrArg Prod.snd ends
  refine ⟨?_, ⟨books, ?_⟩, ?_, ?_, fun operations => ⟨?_, ?_⟩⟩
  · rw [fault?, result, ends]
  · rw [left]
    exact Engine.rebooked_of_some books timers published playing
  · rw [left]
    exact steady
  · rw [left, s.unfelt_rebooked_iff, steady]
    exact s.schedule_perm_iff
  · exact (Sitting.Reaches.refl s).run operations
  · exact (Sitting.Reaches.refl t).run operations

open Harbour in
/-- On a pier where the game has just begun, nothing is felt of another interval between saves. -/
theorem interval_unfelt_on_new_pier :
    let changes : Fields := [("autosave_interval", .float 60.0)]
    let later := onPier.step (.updateSettings changes)
    (∀ change ∈ changes, change.1 ∈ Turn.timingSettings) ∧
      onPier.engine.status = .running ∧ (∃ state, onPier.engine.state = some state) ∧
      onPier.engine.steady.Perm (onPier.engine.renewed onPier.world.elapsed) ∧
      ∀ course other, Parallel course other →
        (onPier.follows course).Concurs (later.follows other) := by
  intro changes later
  have timing : ∀ change ∈ changes, change.1 ∈ Turn.timingSettings := by
    simp [changes, Turn.timingSettings]
  obtain ⟨running, begun, set⟩ : onPier.engine.status = .running ∧
      onPier.engine.state.isSome = true ∧
      onPier.engine.steady.Perm (onPier.engine.renewed onPier.world.elapsed) := by
    decide +kernel
  obtain ⟨state, playing⟩ := Option.isSome_iff_exists.1 begun
  obtain ⟨-, -, -, unfelt, -⟩ := timing_settings_unfelt_iff running playing timing
  exact ⟨timing, running, ⟨state, playing⟩, set, unfelt.2 (.inr set)⟩

namespace Harbour

/-- Three seconds on the pier; playtime is counted every four, and a wage is paid after five. -/
def waiting : Sitting :=
  (Sitting.fresh { now := 1000000.0 } library { playtimeTick := 4.0 } {}).run
    [.wake, .begin (.newGame "ferry" "Ada"), .pass 3.0]

/-- The units of playtime, and what the player has. -/
def gains (s : Sitting) : Option (Int × Int) :=
  s.engine.state.map fun state => (state.progress.playtime, state.player.gold)

end Harbour

open Harbour in
/-- Three seconds later playtime was counted and the wage paid, but not if the player set another
interval between saves meanwhile. -/
theorem gains_deferred_by_interval :
    let changes : Fields := [("autosave_interval", .float 60.0)]
    waiting.engine.status = .running ∧
      fault? (Operation.updateSettings changes).turn waiting = none ∧
      gains (waiting.run [.pass 3.0]) = some (1, 1) ∧
      gains (waiting.run [.updateSettings changes, .pass 3.0]) = some (0, 0) := by
  decide +kernel

end InteractiveFiction
