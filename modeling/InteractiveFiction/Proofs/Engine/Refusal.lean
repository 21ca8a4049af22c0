import InteractiveFiction.Proofs.Effect.Expiry
import InteractiveFiction.Proofs.Engine.Run

/-!
What a refused turn leaves as it was.

A choice is refused because it is not available, or because the scene it leads to is missing or
locked, be it the scene of the choice or one that its effects send the player to.  A refused choice
is put back: however often it is tried again, and whatever the clock shows then, nothing of the game
has changed and no choice was announced (`refused_choice_leaves_game`).

A rejected navigation is not put back.  It takes away the curses and blessings that have run out, and
leaves the state as it was exactly if there are none (`rejected_navigation_sweeps`).
-/

set_option autoImplicit false

namespace InteractiveFiction

open Course

/-! ## What is left alone -/

def choicesAnnounced (published : List EventRecord) : List EventRecord :=
  published.filter fun record => record.event.name == "choiceMade"

/-- A game that stands, is shown and waits as another does, with no choice announced since. -/
structure Untouched (s t : Sitting) : Prop where
  state : t.engine.state = s.engine.state
  status : t.engine.status = s.engine.status
  scene : t.engine.scene = s.engine.scene
  presentedAt : t.engine.presentedAt = s.engine.presentedAt
  cast : t.engine.cast = s.engine.cast
  delayed : t.engine.delayed = s.engine.delayed
  timers : t.engine.timers = s.engine.timers
  choices : choicesAnnounced t.engine.published = choicesAnnounced s.engine.published

namespace Untouched

variable {s t u : Sitting}

theorem refl (s : Sitting) : Untouched s s :=
  ⟨rfl, rfl, rfl, rfl, rfl, rfl, rfl, rfl⟩

theorem trans (h : Untouched s t) (h' : Untouched t u) : Untouched s u where
  state := h'.state.trans h.state
  status := h'.status.trans h.status
  scene := h'.scene.trans h.scene
  presentedAt := h'.presentedAt.trans h.presentedAt
  cast := h'.cast.trans h.cast
  delayed := h'.delayed.trans h.delayed
  timers := h'.timers.trans h.timers
  choices := h'.choices.trans h.choices

/-- To announce a fault is to announce no choice. -/
theorem blame (h : Untouched s t) (operation : String) (fault : Fault) :
    Untouched s (t.blame operation fault) := by
  unfold Sitting.blame
  split
  · refine { h with choices := ?_ }
    rw [← h.choices]
    simp [Sitting.announce, choicesAnnounced, Event.error]
  · exact h

end Untouched

/-- Choices are announced by turns alone. -/
theorem choicesAnnounced_of_announcements {published published' : List EventRecord}
    (h : announcements published = announcements published') :
    choicesAnnounced published = choicesAnnounced published' := by
  have among : ∀ records : List EventRecord,
      choicesAnnounced records = choicesAnnounced (announcements records) := by
    intro records
    unfold choicesAnnounced announcements
    rw [List.filter_filter]
    refine List.filter_congr fun record _ => ?_
    cases named : record.event.name == "choiceMade" with
    | false => rfl
    | true =>
      rw [beq_iff_eq] at named
      simp [Event.isOfBundle, named, Event.bundleNames]
  rw [among published, h, ← among published']

/-- A game whose state is put back is as it was, if all else is. -/
theorem untouched_of_putBack {s t : Sitting} {before : GameState}
    (kept : Turn.backstage t = Turn.backstage s) (h : s.engine.state = some before) :
    Untouched s (t.putBack before) := by
  have footing : t.footing = s.footing := congrArg Prod.fst kept
  have bare : t.engine.bare = s.engine.bare := congrArg Prod.fst footing
  have place : t.engine.place = s.engine.place := congrArg Prod.snd footing
  have state : (t.putBack before).engine.state = s.engine.state := by
    rw [h, Sitting.putBack]
    rw [Engine.place, Engine.place, h] at place
    cases ht : t.engine.state with
    | none =>
      rw [ht] at place
      cases place
    | some _ => rfl
  exact {
    state
    status := (congrArg Engine.status bare :)
    scene := (congrArg Engine.scene bare :)
    presentedAt := (congrArg Engine.presentedAt bare :)
    cast := (congrArg Engine.cast bare :)
    delayed := (congrArg Engine.delayed bare :)
    timers := (congrArg Engine.timers bare :)
    choices := choicesAnnounced_of_announcements (congrArg Prod.snd kept) }

/-! ## Refused choices -/

theorem sweep_backstage : Confined Turn.backstage Fault.IsAccident Turn.sweep :=
  .bind Turn.confined_now fun now => Turn.onStage_backstage (TimedEffect.expire_inFront now)

theorem untouched_of_refused {s : Sitting} {id : Document} {fault : Fault}
    (running : s.engine.status = .running) (turnsAway : fault.turnsAway = true)
    (refused : fault? (Turn.makeChoice id) s = some fault) :
    Untouched s (after (Turn.makeChoice id) s) := by
  obtain ⟨s', unmade, left⟩ := Turn.unmade_of_makeChoice (outcome_of_fault? refused)
  rw [left]
  refine Untouched.blame ?_ _ _
  cases unmade with
  | idle other => exact absurd running other
  | uncommitted _ uncommitted =>
    rw [(Turn.commit_ends uncommitted).2 turnsAway]
    exact .refl s
  | @unconcluded commitment s₁ _ _ _ committed conclusion =>
    obtain ⟨kept, isBefore⟩ := Turn.commit_ends committed
    have inGame := Turn.inGame_of_commit running committed
    rw [Turn.turnedAway_of_conclusion inGame turnsAway conclusion]
    exact untouched_of_putBack ((sweep_backstage.keeps s₁).trans kept) isBefore

/-- A choice is tried any number of times, at any times, and refused each time. -/
inductive Refusals (id : Document) (s : Sitting) : Sitting → Prop where
  | none : Refusals id s s
  | again {t : Sitting} (earlier : Refusals id s t) (now : Instant) {fault : Fault}
      (turnsAway : fault.turnsAway = true)
      (refused : fault? (Turn.makeChoice id) (t.setClock now) = some fault) :
      Refusals id s (after (Turn.makeChoice id) (t.setClock now))

theorem refused_choice_leaves_game {s t : Sitting} {id : Document}
    (running : s.engine.status = .running) (refusals : Refusals id s t) : Untouched s t := by
  induction refusals with
  | none => exact .refl s
  | again earlier now turnsAway refused ih =>
    rename_i t fault
    have running' : (t.setClock now).engine.status = .running := ih.status.trans running
    have attempt := untouched_of_refused running' turnsAway refused
    have clock : Untouched t (t.setClock now) := ⟨rfl, rfl, rfl, rfl, rfl, rfl, rfl, rfl⟩
    exact ih.trans (clock.trans attempt)

/-- The player who is sent on board is refused twice and has neither been paid nor cursed. -/
theorem board_refused_twice :
    ∃ t, Refusals "board" Harbour.onPier t ∧ t.world.now = 2000000.0 ∧
      Untouched Harbour.onPier t := by
  have once : Refusals "board" Harbour.onPier _ :=
    .again .none 1000000.0 rfl (by decide +kernel :
      fault? (Turn.makeChoice "board") (Harbour.onPier.setClock 1000000.0) =
        some (.sceneInaccessible "deck"))
  have twice : Refusals "board" Harbour.onPier _ :=
    .again once 2000000.0 rfl (by decide +kernel : _ = some (.sceneInaccessible "deck"))
  refine ⟨_, twice, by decide +kernel, ?_⟩
  exact refused_choice_leaves_game (by decide +kernel) twice

/-! ## Rejected navigation -/

/-- A scene that is missing or locked. -/
def Fault.barsScene : Fault → Bool
  | .sceneNotFound _ | .sceneInaccessible _ => true
  | _ => false

theorem Fault.turnsAway_of_barsScene {fault : Fault} (h : fault.barsScene = true) :
    fault.turnsAway = true := by
  cases fault <;> first | rfl | cases h

theorem state_of_sweep {s s' : Sitting} {lapsed : List TimedEffect}
    (h : outcome Turn.sweep s = (.ok lapsed, s')) :
    ∃ state left, s.engine.state = some state ∧ s'.engine.state = some left ∧
      lapsed = state.lapsed s.world.now ∧ left = state.shedAll lapsed ∧
      (left.toDocument = state.toDocument ↔ lapsed = []) := by
  unfold Turn.sweep at h
  rw [outcome_bind_of_ok (Turn.outcome_now s)] at h
  cases hs : s.engine.state with
  | none =>
    rw [Turn.outcome_onStage_of_none hs] at h
    cases h
  | some state =>
    rw [Turn.outcome_onStage_of_some hs] at h
    obtain ⟨isLapsed, rfl⟩ := Prod.mk.inj h
    have expired := (Prod.ext isLapsed rfl : outcome (TimedEffect.expire s.world.now) (s.stage state)
      = (.ok lapsed, after (TimedEffect.expire s.world.now) (s.stage state)))
    obtain ⟨rfl, left, shows⟩ := TimedEffect.state_of_expire expired
    exact ⟨state, _, rfl, rfl, rfl, left, shows⟩

theorem rejected_navigation_sweeps {s : Sitting} {id : Document} {fault : Fault}
    (barsScene : fault.barsScene = true) (rejected : fault? (Turn.navigate id) s = some fault) :
    ∃ state left, s.engine.state = some state ∧
      (after (Turn.navigate id) s).engine.state = some left ∧
      left = state.shedAll (state.lapsed s.world.now) ∧
      (left.toDocument = state.toDocument ↔ state.lapsed s.world.now = []) := by
  have ends := outcome_of_fault? rejected
  by_cases running : s.engine.status = .running
  · rw [Turn.navigate_of_running running] at ends
    obtain ⟨s₁, entered, left⟩ := Turn.error_of_reporting ends
    obtain ⟨lapsed, swept⟩ := Turn.swept_of_turnsAway (Fault.turnsAway_of_barsScene barsScene) entered
    obtain ⟨state, shed, isState, isLeft, rfl, same, shows⟩ := state_of_sweep swept
    exact ⟨state, shed, isState, by rw [left, Sitting.state_blame, isLeft], same, shows⟩
  · obtain ⟨fault', idle⟩ := Turn.navigate_of_idle running id
    rw [idle] at ends
    have same := (Prod.mk.inj ends).1
    cases same
    cases barsScene

/-- The way to a scene that is not there ends with the curse swept away. -/
theorem hex_swept_on_the_way_to_nowhere :
    (Fault.sceneNotFound "reef").barsScene = true ∧
      fault? (Turn.navigate "reef") Harbour.hexed = some (.sceneNotFound "reef") ∧
      ∃ state left, Harbour.hexed.engine.state = some state ∧
        (after (Turn.navigate "reef") Harbour.hexed).engine.state = some left ∧
        left = state.shedAll (state.lapsed Harbour.hexed.world.now) ∧
        (left.toDocument = state.toDocument ↔ state.lapsed Harbour.hexed.world.now = []) := by
  have rejected : fault? (Turn.navigate "reef") Harbour.hexed = some (.sceneNotFound "reef") := by
    decide +kernel
  exact ⟨rfl, rejected, rejected_navigation_sweeps rfl rejected⟩

/-- A rejected navigation need not leave the state as it was: the curse was in it. -/
theorem hex_lost_on_the_way_to_nowhere :
    Harbour.hexed.engine.status = .running ∧
      fault? (Turn.navigate "reef") Harbour.hexed = some (.sceneNotFound "reef") ∧
      (after (Turn.navigate "reef") Harbour.hexed).engine.state.map GameState.toDocument ≠
        Harbour.hexed.engine.state.map GameState.toDocument := by
  refine ⟨?_, ?_, ?_⟩
  · decide +kernel
  · decide +kernel
  · decide +kernel

end InteractiveFiction
