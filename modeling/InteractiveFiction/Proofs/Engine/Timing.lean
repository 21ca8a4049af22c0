import InteractiveFiction.Proofs.Engine.Firing

/-!
Which timers are set, and when.

While a game runs, one timer counts its playtime, one saves it if its settings ask for that and
name an interval that can be waited for, and one waits if and only if the effects of a scene wait.
While no game runs, no timer is set, and so the passing of time changes nothing
(`live_timers_of_run`).  That holds of every run in which no opening fails: one that fails has
stopped the timers and leaves the status as it was.

The values of settings are not looked at when they are changed.  A running game whose interval is
text is never saved by itself, though its settings ask for it (`text_interval_never_saves`).
-/

set_option autoImplicit false

namespace InteractiveFiction

open Course

/-! ## Timers that are set, and timers that are wanted -/

/-- The seconds between two saves, if they are a number that a timer can wait for. -/
def Settings.interval? (settings : Settings) : Option Float :=
  settings.autosaveInterval.number?.bind fun number => number.toFloat?.toOption

/-- Whether a game is saved by itself: it is to be, and an interval is known. -/
def Settings.savesRegularly (settings : Settings) : Bool :=
  settings.autosave.isTruthy && settings.interval?.isSome

namespace Engine

/-- How many timers of a kind are set. -/
def live (engine : Engine) (kind : TimerKind) : Nat :=
  engine.timers.countP fun timer => timer.kind = kind

/-- How many effects of scenes wait. -/
def pending (engine : Engine) : Nat :=
  if engine.delayed.isSome then 1 else 0

/-- How many timers of a kind a running game wants. -/
def wanted (engine : Engine) (settings : Settings) : TimerKind → Nat
  | .playtime => 1
  | .autosave => if settings.savesRegularly then 1 else 0
  | .delayedEffects => engine.pending

theorem pending_le_one (engine : Engine) : engine.pending ≤ 1 := by
  unfold pending
  split <;> decide

theorem wanted_of_delayed {engine other : Engine} (h : engine.delayed = other.delayed)
    (settings : Settings) (kind : TimerKind) :
    engine.wanted settings kind = other.wanted settings kind := by
  cases kind with
  | playtime => rfl
  | autosave => rfl
  | delayedEffects => rw [wanted, wanted, pending, pending, h]

variable (engine : Engine) (kind : TimerKind) (elapsed : Float)

theorem live_of_no_timers {engine : Engine} (h : engine.timers = []) (kind : TimerKind) :
    engine.live kind = 0 := by
  rw [live, h]
  rfl

theorem live_withTimer (other : TimerKind) (due : Float) :
    (engine.withTimer other due).live kind =
      engine.live kind + if other = kind then 1 else 0 := by
  unfold withTimer live
  rw [List.countP_append, List.countP_singleton]
  simp

theorem live_dropTimer {engine : Engine} {timer : Timer} (h : timer ∈ engine.timers)
    (kind : TimerKind) : engine.live kind =
      (engine.dropTimer timer).live kind + if timer.kind = kind then 1 else 0 := by
  have same := (List.perm_cons_erase h).countP_eq fun timer => decide (timer.kind = kind)
  rw [List.countP_cons] at same
  simpa [live, dropTimer] using same

theorem live_of_mem {engine : Engine} {timer : Timer} (h : timer ∈ engine.timers) :
    0 < engine.live timer.kind :=
  List.countP_pos_iff.2 ⟨timer, h, by simp⟩

theorem isArmed_iff : engine.isArmed = true ↔ 0 < engine.live .delayedEffects := by
  unfold isArmed live
  rw [List.countP_pos_iff]
  simp

theorem live_forgetDelayed :
    engine.forgetDelayed.live kind = if kind = .delayedEffects then 0 else engine.live kind := by
  unfold forgetDelayed live
  rw [List.countP_filter]
  split
  · rename_i waits
    subst waits
    rw [List.countP_eq_zero]
    simp
  · rename_i other
    refine List.countP_congr fun timer _ => ?_
    simp only [Bool.and_eq_true, decide_eq_true_eq]
    constructor
    · exact fun both => both.1
    · exact fun same => ⟨same, fun waits => other (same ▸ waits)⟩

theorem live_startAutosave {settings : Settings}
    (h : engine.state.map GameState.settings = some settings) :
    (engine.startAutosave elapsed).live kind =
      engine.live kind + if kind = .autosave ∧ settings.interval?.isSome then 1 else 0 := by
  obtain ⟨state, isState, rfl⟩ := Option.map_eq_some_iff.1 h
  have interval : engine.state.bind autosaveInterval? = state.settings.interval? := by
    rw [isState]
    rfl
  unfold startAutosave
  rw [interval]
  cases state.settings.interval? with
  | none => simp
  | some seconds =>
    rw [live_withTimer]
    simp [eq_comm]

theorem live_arm (few : engine.live .delayedEffects ≤ engine.pending) :
    (engine.arm elapsed).live kind =
      if kind = .delayedEffects then engine.pending else engine.live kind := by
  unfold arm pending at *
  cases waiting : engine.delayed with
  | none =>
    rw [waiting] at few
    by_cases waits : kind = .delayedEffects
    · subst waits
      simpa using few
    · rw [if_neg waits]
  | some delayed =>
    rw [waiting] at few
    dsimp only [Option.isSome] at few ⊢
    rw [if_pos rfl] at few ⊢
    have armed := engine.isArmed_iff
    by_cases set : engine.isArmed = true
    · rw [if_pos set]
      have one := armed.1 set
      by_cases waits : kind = .delayedEffects
      · rw [if_pos waits, waits]
        omega
      · rw [if_neg waits]
    · rw [if_neg set, live_withTimer]
      by_cases waits : kind = .delayedEffects
      · have none : engine.live .delayedEffects = 0 := by
          rw [armed] at set
          omega
        rw [waits, if_pos rfl, if_pos rfl, none]
      · rw [if_neg waits, if_neg (Ne.symm waits)]
        rfl

/-- The engine once it was made to save its game by itself, if that is asked for. -/
def savingItself (engine : Engine) (elapsed : Float) : Engine :=
  if engine.savesItself then engine.startAutosave elapsed else engine

theorem startTimers_eq :
    engine.startTimers elapsed =
      ((engine.startPlaytime elapsed).savingItself elapsed).arm elapsed :=
  rfl

theorem pending_savingItself : (engine.savingItself elapsed).pending = engine.pending := by
  have waits : (engine.savingItself elapsed).delayed = engine.delayed := by
    unfold savingItself
    split
    · exact delayed_startAutosave engine elapsed
    · rfl
  rw [pending, pending, waits]

theorem live_savingItself {settings : Settings}
    (h : engine.state.map GameState.settings = some settings) :
    (engine.savingItself elapsed).live kind =
      engine.live kind + if kind = .autosave ∧ settings.savesRegularly = true then 1 else 0 := by
  have asked : engine.savesItself = settings.autosave.isTruthy := by
    obtain ⟨state, isState, rfl⟩ := Option.map_eq_some_iff.1 h
    rw [savesItself, isState]
    rfl
  unfold savingItself Settings.savesRegularly
  rw [asked]
  cases settings.autosave.isTruthy with
  | true =>
    rw [if_pos rfl, live_startAutosave _ _ _ h]
    simp
  | false => simp

/-- Timers that are started over none but that of the delayed effects are those that are wanted. -/
theorem live_startTimers {settings : Settings}
    (h : engine.state.map GameState.settings = some settings)
    (idle : ∀ kind, kind ≠ .delayedEffects → engine.live kind = 0)
    (few : engine.live .delayedEffects ≤ engine.pending) :
    (engine.startTimers elapsed).live kind = engine.wanted settings kind := by
  have saving : ∀ kind, ((engine.startPlaytime elapsed).savingItself elapsed).live kind =
      engine.live kind + (if .playtime = kind then 1 else 0) +
        if kind = .autosave ∧ settings.savesRegularly = true then 1 else 0 := by
    intro kind
    have same : (engine.startPlaytime elapsed).state.map GameState.settings = some settings := h
    rw [live_savingItself _ _ _ same, startPlaytime, live_withTimer]
  have waits : ((engine.startPlaytime elapsed).savingItself elapsed).pending = engine.pending :=
    (engine.startPlaytime elapsed).pending_savingItself elapsed
  rw [startTimers_eq, live_arm, waits]
  · cases kind with
    | playtime => simp [saving, idle, wanted]
    | autosave => simp [saving, idle, wanted]
    | delayedEffects => rfl
  · rw [saving, waits]
    simpa using few

end Engine

/-! ## Well-timed games -/

/-- A game in progress has settings, the timers of a running game are those that are wanted, and
no timer is set while no game runs. -/
structure Timed (frame : Scenery × Option Settings) : Prop where
  game : frame.1.1.status = .running ∨ frame.1.1.status = .paused →
    ∃ settings, frame.2 = some settings
  running : frame.1.1.status = .running → ∀ settings, frame.2 = some settings →
    ∀ kind, frame.1.1.live kind = frame.1.1.wanted settings kind
  idle : frame.1.1.status ≠ .running → frame.1.1.timers = []

namespace Timed

variable {frame : Scenery × Option Settings}

/-- Where no game runs and none is paused, no more is asked than that no timer is set. -/
theorem of_no_game (running : frame.1.1.status ≠ .running) (paused : frame.1.1.status ≠ .paused)
    (idle : frame.1.1.timers = []) : Timed frame := by
  refine ⟨?_, fun runs => absurd runs running, fun _ => idle⟩
  rintro (runs | pauses)
  · exact absurd runs running
  · exact absurd pauses paused

theorem of_paused (paused : frame.1.1.status = .paused) (idle : frame.1.1.timers = [])
    {settings : Settings} (game : frame.2 = some settings) : Timed frame := by
  refine ⟨fun _ => ⟨settings, game⟩, fun running => ?_, fun _ => idle⟩
  rw [paused] at running
  cases running

theorem of_running (running : frame.1.1.status = .running) {settings : Settings}
    (game : frame.2 = some settings)
    (wanted : ∀ kind, frame.1.1.live kind = frame.1.1.wanted settings kind) : Timed frame := by
  refine ⟨fun _ => ⟨settings, game⟩, fun _ other isOther => ?_, fun never => absurd running never⟩
  rw [game] at isOther
  exact Option.some.inj isOther ▸ wanted

end Timed

/-! ## Entries and choices -/

namespace Entry

variable {id : Document} {mode : Turn.EntryMode} {before after : Scenery}
  {r : Except Fault PresentedScene}

theorem status (entry : Entry id mode before r after) : after.1.status = before.1.status := by
  cases entry with
  | turnedAway fault => rfl
  | stranded fault => rfl
  | unsettled fault presented now presents => rfl
  | arrived presented now elapsed presents =>
    exact (congrArg Engine.status (Engine.untimed_arm _ elapsed) :)

/-- Where a scene is left, its effects and their timer are given up; no other timer is touched. -/
theorem live (entry : Entry id mode before r after) :
    (∃ fault, r = .error fault) ∧ after = before ∨
    ∀ kind, after.1.live kind =
      if kind = .delayedEffects then after.1.pending else before.1.live kind := by
  cases entry with
  | turnedAway fault => exact .inl ⟨⟨fault, rfl⟩, rfl⟩
  | stranded fault => exact .inr fun kind => before.1.live_forgetDelayed kind
  | unsettled fault presented now presents =>
    exact .inr fun kind => before.1.live_forgetDelayed kind
  | arrived presented now elapsed presents =>
    refine .inr fun kind => ?_
    let shown : Engine := { (shownScenery presented now (movedScenery id before)).1 with
      delayed := mode.delayed presented }
    -- Nothing is set any more for the effects of the scene that was left.
    have none : shown.live .delayedEffects = 0 := before.1.live_forgetDelayed .delayedEffects
    have kept : (shown.arm elapsed).pending = shown.pending := by
      rw [Engine.pending, Engine.pending, shown.delayed_arm elapsed]
    have armed := shown.live_arm kind elapsed (by rw [none]; exact Nat.zero_le _)
    have left := before.1.live_forgetDelayed kind
    change (shown.arm elapsed).live kind =
      if kind = .delayedEffects then (shown.arm elapsed).pending else before.1.live kind
    rw [armed, kept]
    split
    · rfl
    · rename_i other
      rw [if_neg other] at left
      exact left

theorem no_timers {fault : Fault} (entry : Entry id mode before (.error fault) after)
    (h : before.1.timers = []) : after.1.timers = [] := by
  have forgotten : before.1.forgetDelayed.timers = [] := by
    rw [Engine.forgetDelayed, h]
    rfl
  cases entry with
  | turnedAway => exact h
  | stranded => exact forgotten
  | unsettled _ presented now presents => exact forgotten

theorem timed (entry : Entry id mode before r after) {settings : Option Settings}
    (h : Timed (before, settings))
    (runs : ∀ presented, r = .ok presented → before.1.status = .running) :
    Timed (after, settings) := by
  have same := entry.status
  refine ⟨fun game => h.game ?_, fun running own isOwn kind => ?_, fun idle => ?_⟩
  · rw [← same]
    exact game
  · have runningBefore : before.1.status = .running := same.symm.trans running
    have wanted := h.running runningBefore own isOwn
    rcases entry.live with ⟨-, rfl⟩ | left
    · exact wanted kind
    · dsimp only at wanted ⊢
      rw [left]
      cases kind with
      | playtime => exact wanted .playtime
      | autosave => exact wanted .autosave
      | delayedEffects => rfl
  · have idleBefore : before.1.status ≠ .running := fun running => idle (same.trans running)
    cases r with
    | ok presented => exact absurd (runs presented rfl) idleBefore
    | error fault => exact entry.no_timers (h.idle idleBefore)

end Entry

theorem Choosing.timed {id : Document} {s : Sitting} {r : Except Fault ChoiceOutcome}
    {after : Scenery} (choosing : Choosing id s r after) (h : Timed s.frame) :
    Timed (after, s.settings) := by
  cases choosing with
  | refused fault => exact h
  | ended r running leaves =>
    exact Timed.of_no_game (fun running => by cases running) (fun paused => by cases paused) rfl
  | led made running committed truthy entry leads => exact entry.timed h fun _ _ => running
  | failed fault running committed truthy entry => exact entry.timed h fun _ _ => running
  | putBack fault running committed truthy entry =>
    have left := entry.timed h fun _ _ => running
    exact ⟨left.game, left.running, left.idle⟩

/-! ## Starting the timers -/

theorem Sitting.settings_begun (s : Sitting) : s.begun.settings = s.settings :=
  congrArg (Option.map GameState.settings) s.state_begun

theorem Sitting.timed_begun {s : Sitting} {settings : Settings} (game : s.settings = some settings)
    (idle : ∀ kind, kind ≠ .delayedEffects → s.engine.live kind = 0)
    (few : s.engine.live .delayedEffects ≤ s.engine.pending) : Timed s.begun.frame := by
  refine Timed.of_running s.status_begun (s.settings_begun.trans game) fun kind => ?_
  have started := { s.engine with status := .running }.live_startTimers kind s.world.elapsed
    game idle few
  exact started.trans (Engine.wanted_of_delayed s.delayed_begun settings kind).symm

theorem Sitting.timed_begun_of_no_timers {s : Sitting} {settings : Settings}
    (game : s.settings = some settings) (idle : s.engine.timers = []) : Timed s.begun.frame := by
  have none := Engine.live_of_no_timers idle
  refine Sitting.timed_begun game (fun kind _ => none kind) ?_
  rw [none]
  exact Nat.zero_le _

theorem Starting.timed {opening : Opening} {s t : Sitting} {presented : PresentedScene}
    (starting : Starting opening s (.ok presented) t) : Timed t.frame := by
  cases starting with
  | @started s₁ u state presented event found entry =>
    obtain ⟨place, placed⟩ := entry.placed rfl
    obtain ⟨left, isLeft, -⟩ := Engine.state_of_place placed
    have game : u.settings = some left.settings := by rw [Sitting.settings, isLeft]; rfl
    have none : ∀ kind, (s.replaced state).1.live kind = 0 := Engine.live_of_no_timers rfl
    rcases entry.live with ⟨⟨fault, failed⟩, -⟩ | live
    · cases failed
    · refine Sitting.timed_begun game (fun kind other => ?_) ?_
      · have kept := live kind
        rw [if_neg other, none] at kept
        exact kept
      · exact Nat.le_of_eq (live .delayedEffects)

/-! ## Firing -/

namespace Engine

variable {engine : Engine} {settings : Settings} {timer : Timer}

theorem savesRegularly_of_mem (wanted : ∀ kind, engine.live kind = engine.wanted settings kind)
    (set : timer ∈ engine.timers) (saves : timer.kind = .autosave) :
    settings.savesRegularly = true := by
  have some := live_of_mem set
  rw [saves, wanted, Engine.wanted] at some
  by_cases regularly : settings.savesRegularly = true
  · exact regularly
  · rw [if_neg regularly] at some
    exact absurd some (Nat.lt_irrefl 0)

/-- A timer that counts or saves is set again when it is fired; what waited waits no longer. -/
theorem live_fired (game : engine.state.map GameState.settings = some settings)
    (running : engine.status = .running)
    (wanted : ∀ kind, engine.live kind = engine.wanted settings kind) (set : timer ∈ engine.timers)
    (elapsed : Float) (kind : TimerKind) :
    (engine.fired timer elapsed).live kind = (engine.fired timer elapsed).wanted settings kind := by
  have dropped := live_dropTimer set kind
  rw [wanted] at dropped
  unfold fired
  cases isKind : timer.kind with
  | playtime =>
    rw [isKind] at dropped
    dsimp only
    rw [startPlaytime, live_withTimer]
    exact dropped.symm
  | autosave =>
    have regularly := savesRegularly_of_mem wanted set isKind
    have interval : settings.interval?.isSome = true := by
      unfold Settings.savesRegularly at regularly
      exact (Bool.and_eq_true_iff.1 regularly).2
    have same : (engine.dropTimer timer).state.map GameState.settings = some settings := game
    have delayed : ((engine.dropTimer timer).startAutosave elapsed).delayed = engine.delayed :=
      (engine.dropTimer timer).delayed_startAutosave elapsed
    rw [isKind] at dropped
    dsimp only
    rw [live_startAutosave _ _ _ same, wanted_of_delayed delayed, dropped]
    simp [interval, eq_comm]
  | delayedEffects =>
    rw [isKind] at dropped
    dsimp only
    rw [if_pos running]
    -- What waited was waited for by one timer, and that one was fired.
    change (engine.dropTimer timer).live kind = _
    cases kind with
    | playtime => exact dropped.symm
    | autosave => exact dropped.symm
    | delayedEffects =>
      have few := engine.pending_le_one
      rw [Engine.wanted, if_pos rfl] at dropped
      have none : (engine.dropTimer timer).live .delayedEffects = 0 := by omega
      exact none

end Engine

theorem Sitting.timed_fire {s : Sitting} (h : Timed s.frame) {timer : Timer}
    (set : timer ∈ s.engine.timers) : Timed (s.fire timer).frame := by
  have running : s.engine.status = .running := by
    by_cases running : s.engine.status = .running
    · exact running
    · have none : s.engine.timers = [] := h.idle running
      rw [none] at set
      cases set
  obtain ⟨settings, game⟩ := h.game (.inl running)
  obtain ⟨elapsed, frame⟩ := Turn.frame_of_fire timer s
  have still := s.engine.untimed_fired timer elapsed
  have status : (s.engine.fired timer elapsed).status = .running :=
    (congrArg Engine.status still :).trans running
  have kept : (s.engine.fired timer elapsed).state.map GameState.settings = some settings :=
    (congrArg (fun engine : Engine => engine.state.map GameState.settings) still :).trans game
  rw [frame]
  refine Timed.of_running status kept fun kind => ?_
  exact Engine.live_fired game running (h.running running settings game) set elapsed kind

/-! ## Settings -/

namespace Settings

theorem savesRegularly_change {name : String} (other : Turn.timingSettings.contains name = false)
    (settings : Settings) (value : Document) :
    (settings.change name value).savesRegularly = settings.savesRegularly := by
  unfold change
  split
  · cases other
  · cases other
  all_goals rfl

/-- Only two of the settings have a say in the timers. -/
theorem savesRegularly_changeAll {changes : Fields} (other : Sitting.retimes changes = false)
    (settings : Settings) :
    (settings.changeAll changes).savesRegularly = settings.savesRegularly := by
  induction changes generalizing settings with
  | nil => rfl
  | cons change changes ih =>
    obtain ⟨name, value⟩ := change
    rw [Sitting.retimes, List.map_cons, List.any_cons, Bool.or_eq_false_iff] at other
    have later : (settings.changeAll ((name, value) :: changes)) =
        (settings.change name value).changeAll changes := rfl
    rw [later, ih other.2, savesRegularly_change other.1]

end Settings

namespace Sitting

variable {s : Sitting}

theorem settings_adjusted (s : Sitting) (changes : Fields) : (s.adjusted changes).settings =
    s.settings.map fun settings => settings.changeAll changes := by
  unfold settings adjusted
  cases s.engine.state <;> rfl

theorem timed_updateSettings (h : Timed s.frame) (changes : Fields) :
    Timed (s.step (.updateSettings changes)).frame := by
  rcases s.frame_of_updateSettings changes with kept | changed
  · rw [kept]
    exact h
  have adjusted := s.settings_adjusted changes
  rw [changed]
  split
  · rename_i restarts
    obtain ⟨settings, game⟩ := h.game (.inl restarts.1)
    have game' : s.settings = some settings := game
    rw [game'] at adjusted
    have stopped : (s.adjusted changes).stopped.settings = some (settings.changeAll changes) :=
      adjusted
    exact timed_begun_of_no_timers stopped rfl
  · rename_i stays
    by_cases game : s.engine.status = .running ∨ s.engine.status = .paused
    · obtain ⟨settings, isSettings⟩ := h.game game
      have isSettings' : s.settings = some settings := isSettings
      rw [isSettings'] at adjusted
      by_cases running : s.engine.status = .running
      · have other : retimes changes = false := by
          by_cases retimed : retimes changes = true
          · exact absurd ⟨running, retimed⟩ stays
          · simpa using retimed
        refine Timed.of_running running adjusted fun kind => ?_
        have wanted := h.running running settings isSettings kind
        cases kind with
        | playtime => exact wanted
        | autosave =>
          have same := Settings.savesRegularly_changeAll other settings
          rw [Engine.wanted, same]
          exact wanted
        | delayedEffects => exact wanted
      · have paused := game.resolve_left running
        exact Timed.of_paused paused (h.idle running) adjusted
    · have idle : s.engine.status ≠ .running := fun running => game (.inl running)
      exact Timed.of_no_game idle (fun paused => game (.inr paused)) (h.idle idle)

/-- What one operation keeps: every operation but an opening that fails. -/
theorem timed_step (h : Timed s.frame) {operation : Operation}
    (opens : ∀ opening, operation = .begin opening → fault? opening.turn s = none) :
    Timed (s.step operation).frame := by
  have unset : ∀ {status : EngineStatus}, s.engine.status = status → status ≠ .running →
      s.engine.timers = [] := by
    rintro status rfl idle
    exact h.idle idle
  cases operation with
  | wake =>
    rcases s.frame_of_wake with kept | ⟨asleep, woken⟩
    · rw [kept]
      exact h
    · rw [woken]
      refine Timed.of_no_game ?_ ?_ (unset asleep (by decide))
      · exact fun running => by cases running
      · exact fun paused => by cases paused
  | pause =>
    rcases s.frame_of_pause with kept | ⟨running, halted⟩
    · rw [kept]
      exact h
    · rw [halted]
      obtain ⟨settings, game⟩ := h.game (.inl running)
      exact Timed.of_paused rfl rfl game
  | resume =>
    rcases s.frame_of_resume with kept | ⟨paused, begun⟩
    · rw [kept]
      exact h
    · rw [begun]
      obtain ⟨settings, game⟩ := h.game (.inr paused)
      exact timed_begun_of_no_timers game (unset paused (by decide))
  | shutdown =>
    rw [s.frame_of_shutdown]
    exact Timed.of_no_game (fun running => by cases running) (fun paused => by cases paused) rfl
  | begin opening =>
    have starting := s.starting_step opening
    have succeeds := opens opening rfl
    unfold fault? at succeeds
    cases ends : result opening.turn s with
    | ok presented =>
      rw [ends] at starting
      exact starting.timed
    | error fault =>
      rw [ends] at succeeds
      cases succeeds
  | choose id =>
    have settings := (Turn.makeChoice_keepsSettings id).keeps s
    rw [← step_choose] at settings
    rw [frame, settings]
    exact (s.choosing_step id).timed h
  | navigate id =>
    have settings := (Turn.navigate_keepsSettings id).keeps s
    obtain ⟨entry, runs⟩ := s.entry_step id
    rw [← step_navigate] at settings
    rw [frame, settings]
    exact entry.timed h runs
  | updateSettings changes => exact timed_updateSettings h changes
  | pass seconds =>
    refine Turn.pass_induction (P := fun s => Timed s.frame) ?_ ?_ seconds h
    · exact fun s time timed => timed
    · exact fun s timed timer set => timed_fire timed set
  | useItem | interact | applyBundle | autosave | manualSave | listSlots | outside =>
    rw [s.step_of_isQuiet rfl]
    exact h

theorem timed_run (h : Timed s.frame) {operations : List Operation}
    (opened : ∀ earlier opening, earlier ++ [.begin opening] <+: operations →
      fault? opening.turn (s.run earlier) = none) : Timed (s.run operations).frame := by
  induction operations generalizing s with
  | nil => exact h
  | cons operation operations ih =>
    have stepped : Timed (s.step operation).frame := by
      refine timed_step h fun opening begins => ?_
      exact opened [] opening (by simp [begins])
    refine ih stepped fun earlier opening among => ?_
    exact opened (operation :: earlier) opening (List.cons_prefix_cons.2 ⟨rfl, among⟩)

/-- Where no timer is set, time passes without any effect on the engine. -/
theorem engine_of_pass (none : s.engine.timers = []) (seconds : Float) :
    (s.step (.pass seconds)).engine = s.engine := by
  have idle : s.engine.timers = [] ∧ s.engine = s.engine := ⟨none, rfl⟩
  refine (Turn.pass_induction
    (P := fun t => t.engine.timers = [] ∧ t.engine = s.engine) ?_ ?_ seconds idle).2
  · exact fun t time kept => kept
  · intro t kept timer set
    rw [kept.1] at set
    cases set

end Sitting

/-! ## Runs -/

/-- In a run in which no opening fails, the timers of a running game are one for its playtime, one
for its saves if it is saved by itself, and one for the effects that wait, if any wait.  While no
game runs no timer is set, and time passes without any effect on the engine. -/
theorem live_timers_of_run (world : World) (content : Repository) (config : EngineConfig)
    (audio : AudioSink) {operations : List Operation}
    (opened : ∀ earlier opening, earlier ++ [.begin opening] <+: operations →
      fault? opening.turn ((Sitting.fresh world content config audio).run earlier) = none) :
    let s := (Sitting.fresh world content config audio).run operations
    (s.engine.status = .running → ∃ state, s.engine.state = some state ∧
      s.engine.live .playtime = 1 ∧
      (s.engine.live .autosave = if state.settings.savesRegularly then 1 else 0) ∧
      (s.engine.live .delayedEffects = if s.engine.delayed.isSome then 1 else 0)) ∧
    (s.engine.status ≠ .running → s.engine.timers = [] ∧
      ∀ seconds, (s.step (.pass seconds)).engine = s.engine) := by
  intro s
  have start : Timed (Sitting.fresh world content config audio).frame := by
    exact Timed.of_no_game (fun running => by cases running) (fun paused => by cases paused) rfl
  have timed : Timed s.frame := Sitting.timed_run start opened
  refine ⟨fun running => ?_, fun idle => ?_⟩
  · obtain ⟨settings, game⟩ := timed.game (.inl running)
    obtain ⟨state, isState, rfl⟩ := Option.map_eq_some_iff.1 game
    have wanted := timed.running running _ game
    exact ⟨state, isState, wanted .playtime, wanted .autosave, wanted .delayedEffects⟩
  · have none : s.engine.timers = [] := timed.idle idle
    exact ⟨none, Sitting.engine_of_pass none⟩

namespace Harbour

/-- The game on the pier was opened without a fault, and without any other opening. -/
theorem onPier_opened {rest : List Operation} (plain : ∀ opening, .begin opening ∉ rest)
    (earlier : List Operation) (opening : Opening) (among : earlier ++ [.begin opening] <+:
      .wake :: .begin (.newGame "ferry" "Ada") :: rest) :
    fault? opening.turn ((Sitting.fresh { now := 1000000.0 } library {} {}).run earlier) =
      none := by
  cases earlier with
  | nil =>
    obtain ⟨never, -⟩ := List.cons_prefix_cons.1 among
    cases never
  | cons first earlier =>
    obtain ⟨rfl, later⟩ := List.cons_prefix_cons.1 among
    cases earlier with
    | nil =>
      obtain ⟨same, -⟩ := List.cons_prefix_cons.1 later
      cases same
      decide +kernel
    | cons second earlier =>
      obtain ⟨-, last⟩ := List.cons_prefix_cons.1 later
      exact absurd (last.subset (by simp)) (plain opening)

theorem run_onPier (rest : List Operation) :
    (Sitting.fresh { now := 1000000.0 } library {} {}).run
      (.wake :: .begin (.newGame "ferry" "Ada") :: rest) = onPier.run rest := by
  simp only [onPier, Sitting.run, List.foldl_cons, List.foldl_nil]

/-- The pier with a game that is to save itself, at an interval that is text. -/
def misread : Sitting :=
  onPier.step (.updateSettings [("autosave", .bool true), ("autosave_interval", "5")])

end Harbour

open Harbour in
theorem timers_of_paused_and_resumed_pier :
    (onPier.run [.pause]).engine.timers = [] ∧
      (onPier.run [.pause, .resume]).engine.status = .running ∧
      (onPier.run [.pause, .resume]).engine.live .playtime = 1 ∧
      (onPier.run [.pause, .resume]).engine.live .delayedEffects = 1 := by
  have plain : ∀ opening, Operation.begin opening ∉ [Operation.pause] := by simp
  have plain' : ∀ opening, Operation.begin opening ∉ [Operation.pause, Operation.resume] := by simp
  have paused : (onPier.run [.pause]).engine.status ≠ .running := by decide +kernel
  have running : (onPier.run [.pause, .resume]).engine.status = .running := by decide +kernel
  have waits : (onPier.run [.pause, .resume]).engine.delayed.isSome = true := by decide +kernel
  obtain ⟨-, idle⟩ := live_timers_of_run _ _ _ _ (onPier_opened plain)
  obtain ⟨runs, -⟩ := live_timers_of_run _ _ _ _ (onPier_opened plain')
  rw [run_onPier] at idle runs
  obtain ⟨state, isState, playtime, autosave, delayed⟩ := runs running
  rw [if_pos waits] at delayed
  exact ⟨(idle paused).1, running, playtime, delayed⟩

open Harbour in
/-- Settings may ask for saves and get none: a running game without a timer for them, though it is
to be saved by itself. -/
theorem text_interval_never_saves :
    fault? (Opening.newGame "ferry" "Ada").turn
        ((Sitting.fresh { now := 1000000.0 } library {} {}).run [.wake]) = none ∧
      misread.engine.status = .running ∧
      misread.engine.state.map (fun state => state.settings.autosave) = some (.bool true) ∧
      misread.engine.live .playtime = 1 ∧ misread.engine.live .autosave = 0 ∧
      (misread.step (.pass 6.0)).world.store = misread.world.store := by
  decide +kernel

end InteractiveFiction
