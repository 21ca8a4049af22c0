import InteractiveFiction.Proofs.Engine.Run

/-!
What becomes of a game in progress when another one fails to open.

The status stays and the timers are gone, whatever the fault.  As long as no game is found that is
all: a paused game goes on, and a running one stands still.  Once a game is found the state of the
one before is lost, and a scene is shown only if it is the new game's
(`failed_opening_continues_iff`).
-/

set_option autoImplicit false

namespace InteractiveFiction

open Course

/-- The game goes on as if nothing had been tried: it stands and is shown as before, and what a
running game waits for is still to come. -/
structure Continues (s t : Sitting) : Prop where
  status : t.engine.status = s.engine.status
  document : t.engine.state.map GameState.toDocument = s.engine.state.map GameState.toDocument
  scene : t.engine.scene = s.engine.scene
  timers : s.engine.status = .running → t.engine.timers = s.engine.timers
  delayed : s.engine.status = .running → t.engine.delayed = s.engine.delayed

namespace Opening

variable {opening : Opening} {s : Sitting} {fault : Fault}

/-- An opening that fails after a game was found ends before the game is settled in. -/
theorem entryEnd?_of_failed (initialized : s.engine.status ≠ .uninitialized)
    (failed : fault? opening.turn s = some fault) :
    opening.entryEnd? s = none ∨ opening.entryEnd? s = some (.turnedAway fault) ∨
      opening.entryEnd? s = some (.stranded fault) ∨
      opening.entryEnd? s = some (.unsettled fault) := by
  have ends := outcome_of_fault? failed
  cases entry : opening.entryEnd? s with
  | none => exact .inl rfl
  | some entryEnd =>
    cases entryEnd with
    | turnedAway fault' =>
      obtain ⟨t, turned, -⟩ := turn_of_turnedAway initialized entry
      rw [turned] at ends
      cases (Prod.mk.inj ends).1
      exact .inr (.inl rfl)
    | stranded fault' =>
      obtain ⟨t, turned, -⟩ := turn_of_stranded initialized entry
      rw [turned] at ends
      cases (Prod.mk.inj ends).1
      exact .inr (.inr (.inl rfl))
    | unsettled fault' =>
      obtain ⟨t, presented, place, turned, -⟩ := turn_of_unsettled initialized entry
      rw [turned] at ends
      cases (Prod.mk.inj ends).1
      exact .inr (.inr (.inr rfl))
    | arrived presented =>
      obtain ⟨t, place, turned, -⟩ := turn_of_arrived initialized entry
      rw [turned] at ends
      cases (Prod.mk.inj ends).1

/-- Whatever an opening fails with, the status stays and the timers are gone. -/
theorem status_and_timers_of_failed (initialized : s.engine.status ≠ .uninitialized)
    (failed : fault? opening.turn s = some fault) :
    (after opening.turn s).engine.status = s.engine.status ∧
      (after opening.turn s).engine.timers = [] := by
  have blamed : ∀ {t : Sitting} {fault' : Fault}, t.engine.status = s.engine.status →
      t.engine.timers = [] →
      outcome opening.turn s = (.error fault', t.blame opening.operation fault') →
      (after opening.turn s).engine.status = s.engine.status ∧
        (after opening.turn s).engine.timers = [] := by
    intro t fault' status timers ended
    have bare : (after opening.turn s).engine.bare = t.engine.bare :=
      congrArg Prod.fst (Turn.footing_of_blamed ended)
    exact ⟨(congrArg Engine.status bare :).trans status, (congrArg Engine.timers bare :).trans timers⟩
  -- The timers go first of all, so it does not matter how far the opening came.
  rcases entryEnd?_of_failed initialized failed with entry | entry | entry | entry
  · obtain ⟨fault', t, ended, engine⟩ := turn_of_nothing_found initialized entry
    refine blamed ?_ ?_ ended
    · rw [engine]
      rfl
    · rw [engine]
      rfl
  · obtain ⟨t, ended, status, timers, -⟩ := turn_of_turnedAway initialized entry
    exact blamed status timers ended
  · obtain ⟨t, ended, status, timers, -⟩ := turn_of_stranded initialized entry
    exact blamed status timers ended
  · obtain ⟨t, presented, place, ended, timers, stance, -⟩ := turn_of_unsettled initialized entry
    exact blamed (Sitting.stance_eq_iff.1 stance).1 timers ended

/-- As long as no game is found, nothing but the timers is touched. -/
theorem kept_of_nothing_found (initialized : s.engine.status ≠ .uninitialized)
    (h : opening.entryEnd? s = none) :
    (after opening.turn s).engine.state = s.engine.state ∧
      (after opening.turn s).engine.scene = s.engine.scene ∧
      (after opening.turn s).engine.delayed = s.engine.delayed := by
  obtain ⟨fault', t, ended, engine⟩ := turn_of_nothing_found initialized h
  have bare : (after opening.turn s).engine.bare = t.engine.bare :=
    congrArg Prod.fst (Turn.footing_of_blamed ended)
  have state : (after opening.turn s).engine.state = t.engine.state := by
    rw [after, ended]
    exact Sitting.state_blame _ _ _
  rw [engine] at bare state
  exact ⟨state, (congrArg Engine.scene bare :), (congrArg Engine.delayed bare :)⟩

end Opening

/-- A game that was found, but turned the player away or could not be shown, is not shown. -/
theorem scene_of_not_shown {opening : Opening} {s : Sitting} {fault : Fault}
    (initialized : s.engine.status ≠ .uninitialized)
    (h : opening.entryEnd? s = some (.turnedAway fault) ∨
      opening.entryEnd? s = some (.stranded fault)) :
    (after opening.turn s).engine.scene = none := by
  have ended : ∃ t : Sitting,
      outcome opening.turn s = (.error fault, t.blame opening.operation fault) ∧
      t.engine.scene = none := by
    rcases h with entry | entry
    · obtain ⟨t, ended, -, -, scene⟩ := Opening.turn_of_turnedAway initialized entry
      exact ⟨t, ended, scene⟩
    · obtain ⟨t, ended, -, -, scene⟩ := Opening.turn_of_stranded initialized entry
      exact ⟨t, ended, scene⟩
  obtain ⟨t, ended, scene⟩ := ended
  have bare : (after opening.turn s).engine.bare = t.engine.bare :=
    congrArg Prod.fst (Turn.footing_of_blamed ended)
  exact (congrArg Engine.scene bare :).trans scene

/-- What stands, is shown and waits now looks just like what did before. -/
structure Resembles (s t : Sitting) : Prop where
  document : t.engine.state.map GameState.toDocument = s.engine.state.map GameState.toDocument
  scene : t.engine.scene = s.engine.scene
  delayed : s.engine.status = .running → t.engine.delayed = s.engine.delayed

/-- A game in progress goes on after an opening failed exactly if it waits for nothing, as when it is
paused, and no other game was found or the one that was found is shown and looks just like it. -/
theorem failed_opening_continues_iff {opening : Opening} {s : Sitting} {fault : Fault}
    (inProgress : s.InProgress) (failed : fault? opening.turn s = some fault) :
    Continues s (after opening.turn s) ↔
      (s.engine.status = .running → s.engine.timers = []) ∧
        (opening.entryEnd? s = none ∨
          (opening.entryEnd? s = some (.unsettled fault) ∨ s.engine.scene = none) ∧
            Resembles s (after opening.turn s)) := by
  have initialized := inProgress.initialized
  obtain ⟨status, timers⟩ := Opening.status_and_timers_of_failed initialized failed
  constructor
  · intro continues
    have alike : Resembles s (after opening.turn s) :=
      ⟨continues.document, continues.scene, continues.delayed⟩
    refine ⟨fun running => by rw [← continues.timers running, timers], ?_⟩
    rcases Opening.entryEnd?_of_failed initialized failed with entry | entry | entry | entry
    · exact .inl entry
    · have scene := scene_of_not_shown initialized (.inl entry)
      exact .inr ⟨.inr (continues.scene.symm.trans scene), alike⟩
    · have scene := scene_of_not_shown initialized (.inr entry)
      exact .inr ⟨.inr (continues.scene.symm.trans scene), alike⟩
    · exact .inr ⟨.inl entry, alike⟩
  · rintro ⟨idle, nothing | ⟨-, alike⟩⟩
    · obtain ⟨state, scene, delayed⟩ := Opening.kept_of_nothing_found initialized nothing
      exact {
        status, scene
        document := by rw [state]
        timers := fun running => by rw [timers, idle running]
        delayed := fun _ => delayed }
    · exact {
        status
        document := alike.document
        scene := alike.scene
        timers := fun running => by rw [timers, idle running]
        delayed := alike.delayed }

/-- A paused game goes on after a slot turned out to be missing. -/
theorem paused_continues_after_missing_slot :
    let s := Harbour.onPier.step .pause
    let opening := Opening.savedGame "nothing"
    s.InProgress ∧ fault? opening.turn s = some (.saving (.slotNotFound "nothing")) ∧
      Continues s (after opening.turn s) := by
  intro s opening
  have paused : s.engine.status = .paused := by decide +kernel
  have failed : fault? opening.turn s = some (.saving (.slotNotFound "nothing")) := by
    decide +kernel
  have nothing : (opening.entryEnd? s).isNone = true := by decide +kernel
  refine ⟨.inr paused, failed, (failed_opening_continues_iff (.inr paused) failed).2 ⟨?_, ?_⟩⟩
  · intro running
    rw [paused] at running
    cases running
  · exact .inl (Option.isNone_iff_eq_none.1 nothing)

def Sitting.playtime (s : Sitting) : Option Int :=
  s.engine.state.map fun state => state.progress.playtime

/-- A game that runs counts no playtime any more after a slot turned out to be missing. -/
theorem running_stands_still_after_missing_slot :
    let s := Harbour.onPier
    let t := after (Opening.savedGame "nothing").turn s
    s.InProgress ∧
      fault? (Opening.savedGame "nothing").turn s = some (.saving (.slotNotFound "nothing")) ∧
      (s.step (.pass 3.0)).playtime = some 3 ∧ (t.step (.pass 3.0)).playtime = some 0 ∧
      ¬ Continues s t := by
  refine ⟨.inl ?_, ?_, ?_, ?_, ?_⟩
  · decide +kernel
  · decide +kernel
  · decide +kernel
  · decide +kernel
  · intro continues
    have waits := continues.timers (by decide +kernel)
    have gone : (after (Opening.savedGame "nothing").turn Harbour.onPier).engine.timers = [] := by
      decide +kernel
    rw [gone] at waits
    exact absurd waits.symm (by decide +kernel)

end InteractiveFiction
