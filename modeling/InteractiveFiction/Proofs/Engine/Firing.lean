import InteractiveFiction.Proofs.Engine.Frame

/-!
The firing of timers, and the passing of time as nothing but that.

* `Engine.fired`: what a firing makes of the frame of an engine (`frame_of_fire`).
* What each firing of a timer that is set keeps, and each advance of the clock, the passing of time
  keeps (`pass_induction`).
-/

set_option autoImplicit false

namespace InteractiveFiction

open Course

/-! ## Firing -/

/-- The engine once a timer was fired, as far as its frame goes. -/
def Engine.fired (engine : Engine) (timer : Timer) (elapsed : Float) : Engine :=
  match timer.kind with
  | .playtime => (engine.dropTimer timer).startPlaytime elapsed
  | .autosave => (engine.dropTimer timer).startAutosave elapsed
  | .delayedEffects =>
    if engine.status = .running then { engine.dropTimer timer with delayed := none }
    else engine.dropTimer timer

namespace Sitting

def withEngine (s : Sitting) (engine : Engine) : Sitting :=
  { s with engine }

/-- The sitting once a timer was fired. -/
def fire (s : Sitting) (timer : Timer) : Sitting :=
  after (Turn.fire timer) s

end Sitting

namespace Engine

theorem untimed_fired (engine : Engine) (timer : Timer) (elapsed : Float) :
    { (engine.fired timer elapsed).untimed with delayed := none } =
      { engine.untimed with delayed := none } := by
  unfold fired
  split
  · rfl
  · exact (congrArg (fun engine : Engine => { engine with delayed := none })
      (untimed_startAutosave (engine.dropTimer timer) elapsed) :)
  · split <;> rfl

theorem interval_of_settings {state other : GameState} (h : state.settings = other.settings) :
    autosaveInterval? state = autosaveInterval? other :=
  congrArg (fun settings : Settings =>
    settings.autosaveInterval.number?.bind fun number => number.toFloat?.toOption) h

theorem bind_interval_of_settings {engine other : Engine}
    (h : engine.state.map GameState.settings = other.state.map GameState.settings) :
    engine.state.bind autosaveInterval? = other.state.bind autosaveInterval? := by
  cases hs : engine.state with
  | none =>
    rw [hs] at h
    rw [Option.map_eq_none_iff.1 h.symm]
  | some state =>
    rw [hs] at h
    obtain ⟨game, isGame, same⟩ := Option.map_eq_some_iff.1 h.symm
    rw [isGame]
    exact interval_of_settings same.symm

end Engine

/-- Where the next save is due does not depend on more than the frame. -/
theorem Sitting.frame_startAutosave {s t : Sitting} (h : s.frame = t.frame) (elapsed : Float) :
    (s.withEngine (s.engine.startAutosave elapsed)).frame =
      (t.withEngine (t.engine.startAutosave elapsed)).frame := by
  obtain ⟨scenery, settings⟩ := Prod.mk.inj h
  have interval : s.engine.state.bind Engine.autosaveInterval? =
      t.engine.state.bind Engine.autosaveInterval? :=
    Engine.bind_interval_of_settings settings
  unfold Engine.startAutosave
  rw [interval]
  cases t.engine.state.bind Engine.autosaveInterval? with
  | none => exact h
  | some seconds =>
    exact congrArg (fun frame : Scenery × Option Settings =>
      ((frame.1.1.withTimer .autosave (elapsed + seconds), frame.1.2), frame.2)) h

namespace Turn

theorem frame_of_countPlaytime (s : Sitting) : ∃ elapsed,
    (after countPlaytime s).frame = (s.withEngine (s.engine.startPlaytime elapsed)).frame := by
  have counts : Grounded AnyFault (modifyState fun state =>
      { state with progress := { state.progress with playtime := state.progress.playtime + 1 } }) :=
    modifyState_grounded (fun _ => rfl) fun _ => rfl
  unfold countPlaytime
  rw [after, outcome_bind_of_ok (outcome_engine s)]
  refine ⟨s.world.elapsed, ?_⟩
  split
  · exact congrArg (fun frame : Scenery × Option Settings =>
      ((frame.1.1.startPlaytime s.world.elapsed, frame.1.2), frame.2)) (counts.frame.keeps s)
  · rfl

theorem frame_of_saveByItself (s : Sitting) : ∃ elapsed,
    (after saveByItself s).frame = (s.withEngine (s.engine.startAutosave elapsed)).frame := by
  unfold saveByItself
  rw [after, outcome_bind_of_ok (outcome_engine s)]
  split
  · have saves : Confined Sitting.frame (fun _ => False) autosave :=
      autosave_grounded.confined_frame
    rcases saved : outcome autosave s with ⟨r, s₁⟩
    obtain ⟨kept, never⟩ := saves.of_outcome saved
    cases r with
    | ok _ =>
      rw [outcome_bind_of_ok saved]
      exact ⟨s₁.world.elapsed, Sitting.frame_startAutosave kept _⟩
    | error fault => exact absurd (never fault rfl) not_false
  · exact ⟨s.world.elapsed, rfl⟩

/-- The effects that waited wait no longer, whatever becomes of them. -/
theorem frame_of_applyDelayed (s : Sitting) : (after applyDelayed s).frame =
    (s.withEngine (if s.engine.status = .running then { s.engine with delayed := none }
      else s.engine)).frame := by
  unfold applyDelayed
  rw [after, outcome_bind_of_ok (outcome_engine s)]
  cases waiting : s.engine.delayed with
  | none =>
    have same : { s.engine with delayed := none } = s.engine := by rw [← waiting]
    rw [same, ite_self]
    rfl
  | some delayed =>
    dsimp only
    split
    · have applies : KeepsFrame (do
          let _ ← onStage delayed.effect.process
          checkAchievements) :=
        .bind (onStage_keepsFrame delayed.effect.process_inFront) fun _ =>
          checkAchievements_grounded.frame
      rw [outcome_bind_of_ok (outcome_modifyEngine _ _)]
      have caught : KeepsFrame (tryCatch (do
          let _ ← onStage delayed.effect.process
          checkAchievements)
          fun fault => do if fault.isOfGame then report "scene_time_effects" fault) :=
        .tryCatch applies fun _ _ => .branch (publish_keepsFrame _) (.pure ())
      exact caught.keeps _
    · rfl

theorem frame_of_fire (timer : Timer) (s : Sitting) : ∃ elapsed,
    (s.fire timer).frame = (s.withEngine (s.engine.fired timer elapsed)).frame := by
  unfold Sitting.fire fire Engine.fired
  rw [after, outcome_bind_of_ok (outcome_modifyEngine _ _)]
  cases timer.kind with
  | playtime => exact frame_of_countPlaytime _
  | autosave => exact frame_of_saveByItself _
  | delayedEffects => exact ⟨0, frame_of_applyDelayed _⟩

/-! ## Passing -/

/-- A pass that keeps what it has or takes what comes next ends with one of those it saw. -/
theorem mem_of_foldl {pick : Option Timer → Timer → Option Timer}
    (picks : ∀ first next, pick first next = some next ∨ pick first next = first)
    (timers : List Timer) {first : Option Timer} {last : Timer}
    (ended : timers.foldl pick first = some last) : first = some last ∨ last ∈ timers := by
  induction timers generalizing first with
  | nil => exact .inl ended
  | cons next timers ih =>
    rw [List.foldl_cons] at ended
    rcases ih ended with now | later
    · rcases picks first next with taken | kept
      · rw [taken] at now
        exact .inr (Option.some.inj now ▸ List.mem_cons_self)
      · exact .inl (kept ▸ now)
    · exact .inr (List.mem_cons_of_mem next later)

theorem mem_of_nextTimer? {engine : Engine} {timer : Timer}
    (h : engine.nextTimer? = some timer) : timer ∈ engine.timers := by
  unfold Engine.nextTimer? at h
  refine (mem_of_foldl (fun first next => ?_) engine.timers h).resolve_left
    (Option.some_ne_none timer).symm
  cases first with
  | none => exact .inl rfl
  | some other =>
    dsimp only
    split
    · exact .inl rfl
    · exact .inr rfl

theorem mem_of_dueTimer? {engine : Engine} {time : Float} {timer : Timer}
    (h : engine.dueTimer? time = some timer) : timer ∈ engine.timers :=
  mem_of_nextTimer? (Option.filter_eq_some_iff.1 h).1

section

variable {P : Sitting → Prop} (moves : ∀ s time, P s → P { s with world := s.world.advanceTo time })
  (fires : ∀ s, P s → ∀ timer ∈ s.engine.timers, P (s.fire timer))

include moves fires

theorem passWithin_induction (time : Float) (fuel : Nat) {s : Sitting} (start : P s) :
    P (after (passWithin time fuel) s) := by
  induction fuel generalizing s with
  | zero => exact start
  | succ fuel ih =>
    unfold passWithin
    rw [after, outcome_bind_of_ok (outcome_engine s)]
    cases due : s.engine.dueTimer? time with
    | none => exact start
    | some timer =>
      let s₁ : Sitting := { s with world := s.world.advanceTo timer.due }
      have moved : P s₁ := moves s _ start
      have fired : P (s₁.fire timer) := fires s₁ moved timer (mem_of_dueTimer? due)
      have advanced :
          outcome (modifyWorld fun world => world.advanceTo timer.due) s = (.ok (), s₁) := rfl
      dsimp only
      rw [outcome_bind_of_ok advanced]
      rcases ends : outcome (fire timer) s₁ with ⟨r, s₂⟩
      rw [Sitting.fire, after, ends] at fired
      cases r with
      | error fault =>
        rw [outcome_bind_of_error ends]
        exact fired
      | ok _ =>
        rw [outcome_bind_of_ok ends]
        exact ih fired

/-- What each firing keeps, and each advance of the clock, the passing of time keeps. -/
theorem pass_induction (seconds : Float) {s : Sitting} (start : P s) :
    P (after (pass seconds) s) := by
  have passed := passWithin_induction moves fires (s.world.elapsed + seconds)
    (passFuel s.engine seconds) start
  have world : outcome Turn.world s = (.ok s.world, s) := rfl
  unfold pass
  rw [after, outcome_bind_of_ok world, outcome_bind_of_ok (outcome_engine s)]
  rcases ends : outcome (passWithin (s.world.elapsed + seconds) (passFuel s.engine seconds)) s with
    ⟨r, s₁⟩
  rw [after, ends] at passed
  cases r with
  | error fault =>
    rw [outcome_bind_of_error ends]
    exact passed
  | ok _ =>
    rw [outcome_bind_of_ok ends]
    exact moves s₁ _ passed

end

end Turn

theorem Sitting.status_fire (s : Sitting) (timer : Timer) :
    (s.fire timer).engine.status = s.engine.status := by
  obtain ⟨elapsed, frame⟩ := Turn.frame_of_fire timer s
  have same : (s.fire timer).engine.status = (s.engine.fired timer elapsed).status :=
    (congrArg (fun frame : Scenery × Option Settings => frame.1.1.status) frame :)
  rw [same]
  exact (congrArg Engine.status (s.engine.untimed_fired timer elapsed) :)

end InteractiveFiction
