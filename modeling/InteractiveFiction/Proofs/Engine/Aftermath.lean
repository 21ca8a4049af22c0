import InteractiveFiction.Proofs.Engine.Mishaps
import InteractiveFiction.Proofs.Engine.Timing

/-!
The end of a story, and what comes after it.

* A choice that ends the story says so, leaves the engine ended and is announced as an end once
  (`ended_of_makeChoice`); one that fails does not end it, unless a condition raises or the scenes
  that were visited cannot be counted (`inGame_of_makeChoice`).
* Nothing else ends a story, and an engine that has ended stays so until a game is opened or it is
  shut down (`Sitting.ended_step`).  It refuses all that is done in a running game, and no timer is
  set any more.
* `end_along_run`: so along every run.  A game that was saved with a list for a scene that it
  visited ends without a word (`end_not_announced`).
-/

set_option autoImplicit false

namespace InteractiveFiction

open Course

namespace Sitting

/-- What was announced of ends. -/
abbrev endings (s : Sitting) : List Event :=
  s.announced "gameEnded"

/-- The story has ended now, and that was announced once. -/
structure Finishes (s t : Sitting) : Prop where
  status : t.engine.status = .ended
  announced : ∃ state, t.engine.state = some state ∧ t.endings = s.endings ++ [state.ending]

theorem Finishes.after {s t u : Sitting} (h : t.Finishes u) (same : t.endings = s.endings) :
    s.Finishes u :=
  ⟨h.status, by rw [← same]; exact h.announced⟩

/-- The story has not ended in between, and no end was announced. -/
structure Continues (s t : Sitting) : Prop where
  status : t.engine.status = .ended → s.engine.status = .ended
  announced : t.endings = s.endings

end Sitting

namespace Turn

variable {id : Document} {s t : Sitting}

theorem recording_endings : Recording (Keeps Sitting.endings) :=
  recording_announced (by decide) (by decide) (by decide) (by decide)

theorem report_keepsEndings (operation : String) (fault : Fault) :
    Leads (Keeps Sitting.endings) (report operation fault) :=
  publish_keepsAnnounced (by decide : "error" ≠ "gameEnded")

theorem commit_keepsEndings (id : Document) : Leads (Keeps Sitting.endings) (commit id) :=
  recording_endings.commit (fun _ _ _ =>
    .bind (.of_reads confined_now) fun _ => .modify fun _ => rfl) id

theorem status_blame (s : Sitting) (operation : String) (fault : Fault) :
    (s.blame operation fault).engine.status = s.engine.status :=
  congrArg (fun footing : Engine × Option Place => footing.1.status) (s.footing_blame operation fault)

/-- What needs a running game is refused where none runs. -/
theorem guarded_of_idle {α : Type} (idle : s.engine.status ≠ .running) (operation : String)
    (turn : Unit → Turn α) :
    ∃ fault, outcome (reporting operation (requireStatus .running operation >>= turn)) s =
      (.error (.lifecycle fault), s.blame operation (.lifecycle fault)) :=
  ⟨_, outcome_reporting_of_error
    (outcome_bind_of_error (outcome_requireStatus_of_ne idle operation) turn) operation⟩

/-! ## Choices -/

theorem finishes_of_endGame (inGame : s.engine.status ≠ .ended)
    (ended : outcome endGame s = (.ok (), t)) : s.Finishes t := by
  refine ⟨(endGame_ends inGame ended).1, ?_⟩
  rw [outcome_endGame inGame] at ended
  obtain ⟨_, s₁, checked, closed⟩ := ok_of_outcome_bind ended
  have checks : s₁.endings = s.concluded.endings := recording_endings.checks.of_outcome checked
  obtain ⟨before, -, unlocked, played, isBefore, -, -, rfl⟩ := pass_of_checked checked
  have isLeft : (s.concluded.unlocking unlocked played).engine.state =
      some (before.unlocking unlocked) :=
    congrArg (Option.map _) isBefore
  obtain ⟨left, s₂, saved, isLeft', -⟩ := saveEnded_returns isLeft
  have saves : s₂.endings = _ := recording_endings.saveEnded.of_outcome saved
  rw [outcome_closeGame saved isLeft'] at closed
  split at closed
  case h_2 => cases closed
  cases closed
  refine ⟨left, isLeft', ?_⟩
  have announces := (after (play .stopAll) s₂).announced_announce left.ending
  have plays : (after (play .stopAll) s₂).endings = s.endings := saves.trans checks
  exact announces.trans (congrArg (· ++ [left.ending]) plays)

/-- A choice that returns tells whether it ended the story. -/
theorem ended_of_makeChoice {made : ChoiceOutcome}
    (chosen : outcome (makeChoice id) s = (.ok made, t)) :
    if made.ended then s.Finishes t else s.Continues t := by
  obtain ⟨running, commitment, s₁, committed, conclusion⟩ := conclusion_of_makeChoice chosen
  have commits : s₁.endings = s.endings := (commit_keepsEndings id).of_outcome committed
  have tells : ∀ u : Sitting, (u.announce (commitment.announcement id)).endings = u.endings :=
    fun u => u.announced_announce_of_ne (by decide : "choiceMade" ≠ "gameEnded")
  cases conclusion with
  | @led s₂ presented truthy entered =>
    have enters : s₂.endings = s₁.endings := (recording_endings.enterScene _ _).of_outcome entered
    refine ⟨fun ended => ?_, (tells s₂).trans (enters.trans commits)⟩
    have kept : s₂.engine.status = s₁.engine.status := (entry_of_enterScene entered).status
    exact absurd (kept.symm.trans ended) (inGame_of_commit running committed)
  | ended closed =>
    have inGame := inGame_of_commit running committed
    have inGame' : (s₁.announce (commitment.announcement id)).engine.status ≠ .ended := inGame
    exact (finishes_of_endGame inGame' closed).after ((tells s₁).trans commits)

/-- A choice that fails does not end the story, unless a condition raises or a scene was visited
that no key names. -/
theorem inGame_of_makeChoice {fault : Fault} (drawn : Drawn s.engine.content s.scenery)
    (keys : ∀ visited, s.visits = some visited → Document.AreKeys visited)
    (spared : fault.isOfConditions = false)
    (failed : outcome (makeChoice id) s = (.error fault, t)) : s.Continues t := by
  obtain ⟨s', unmade, rfl⟩ := unmade_of_makeChoice failed
  have blames : (s'.blame "make_choice" fault).endings = s'.endings :=
    Recording.blame report_keepsEndings s' _ _
  have status : (s'.blame "make_choice" fault).engine.status = s'.engine.status :=
    status_blame s' _ _
  suffices s.Continues s' from ⟨fun ended => this.status (status ▸ ended), blames.trans this.announced⟩
  cases unmade with
  | idle other fault => exact ⟨fun ended => ended, rfl⟩
  | uncommitted running uncommitted =>
    refine ⟨fun ended => ?_, (commit_keepsEndings _).of_outcome uncommitted⟩
    exact absurd ended (inGame_of_commit running uncommitted)
  | @unconcluded commitment s₁ _ _ running committed conclusion =>
    have commits : s₁.endings = s.endings := (commit_keepsEndings _).of_outcome committed
    have inGame := inGame_of_commit running committed
    cases conclusion with
    | @unfollowed s₂ _ truthy unentered =>
      have enters : s₂.endings = s₁.endings :=
        (recording_endings.enterScene _ _).of_outcome unentered
      have stays : s₂.engine.status = s₁.engine.status := (entry_of_enterScene unentered).status
      have inGame' : s₂.engine.status ≠ .ended := stays ▸ inGame
      split
      · exact ⟨fun ended => absurd ended inGame', enters.trans commits⟩
      · exact ⟨fun ended => absurd ended inGame', enters.trans commits⟩
    | unended unclosed =>
      -- What is offered is of a story of the library, so that only a condition raises at its end.
      have kept : s₁.scenery = s.scenery :=
        scenery_of_footing (congrArg Prod.fst (commit_ends committed).1)
      obtain ⟨story, plays, -⟩ := (holdsOut_of_commit committed).authored drawn
      have raised : fault.isOfConditions = true := by
        refine condition_of_endGame ?_ ?_ ?_ unclosed
        · exact inGame
        · change ∃ story, Plays story s₁.scenery
          rw [kept]
          exact ⟨story, plays⟩
        · change ∀ visited, s₁.visits = some visited → Document.AreKeys visited
          rw [((commit_keepsVisits _).of_outcome committed).1]
          exact keys
      rw [spared] at raised
      cases raised

end Turn

/-! ## Other operations -/

/-- Where no game runs, no timer is set. -/
def Rests (scenery : Scenery) : Prop :=
  scenery.1.status ≠ .running → scenery.1.timers = []

/-- What is done in a running game, with its pauses. -/
def Operation.isMove : Operation → Bool
  | .choose _ | .navigate _ | .useItem _ | .interact .. | .pause | .resume => true
  | _ => false

namespace Sitting

variable {s : Sitting} {operation : Operation}

/-- Nothing but a choice announces that a game has ended. -/
theorem endings_step (unchosen : operation.isChoice = false) (s : Sitting) :
    (s.step operation).endings = s.endings := by
  have records := Turn.recording_endings
  have reports := Turn.report_keepsEndings
  cases stays : operation.staysIn with
  | true => exact Turn.Recording.step reports records stays unchosen s
  | false =>
    cases operation with
    | begin opening =>
      rw [step_begin]
      have replaces : Confined endings AnyFault opening.replace := by
        refine .bind (opening.find_keeps_engine.through fun _ _ same => ?_) fun state => ?_
        · exact (congrArg (fun engine : Engine => (engine.published.map EventRecord.event).filter
            fun event => event.name == "gameEnded") same :)
        · exact .bind (.modify fun _ => rfl) fun _ => .pure _
      exact Turn.Recording.start reports records (fun s => replaces.keeps s) s
    | shutdown =>
      have gone : Confined endings AnyFault Turn.shutdown := by
        refine .bind (.modify fun _ => rfl) fun _ => .bind Turn.confined_engine fun engine => ?_
        exact .branch (.bind (.modify fun _ => rfl) fun _ => .modify fun _ => rfl)
          (.modify fun _ => rfl)
      exact gone.keeps s
    | _ => cases stays

/-- An opening leaves the status as it was, unless the game runs. -/
theorem status_of_starting {opening : Opening} {r : Except Fault PresentedScene} {t : Sitting}
    (starting : Starting opening s r t) :
    t.engine.status = s.engine.status ∨ t.engine.status = .running := by
  cases starting with
  | refused fault asleep kept => exact .inl (congrArg (fun scenery => scenery.1.status) kept)
  | notFound fault missing kept => exact .inl (congrArg (fun scenery => scenery.1.status) kept)
  | failed fault found entry => exact .inl entry.status
  | @started s₁ u state presented event found entry => exact .inr u.status_begun

/-- Nothing but a choice makes an engine ended, and only an opening or a shutdown makes it anything
else again. -/
theorem status_step (unchosen : operation.isChoice = false) (s : Sitting) :
    (s.step operation).engine.status = s.engine.status ∨
      (s.step operation).engine.status ≠ .ended ∧
        (operation.staysIn = true → s.engine.status ≠ .ended) := by
  have like : ∀ {t : Sitting}, (s.step operation).frame = t.frame →
      (s.step operation).engine.status = t.engine.status :=
    fun same => congrArg (fun frame : Scenery × Option Settings => frame.1.1.status) same
  have turns : ∀ {before after : EngineStatus}, s.engine.status = before → before ≠ .ended →
      (s.step operation).engine.status = after → after ≠ .ended →
        (s.step operation).engine.status ≠ .ended ∧
          (operation.staysIn = true → s.engine.status ≠ .ended) := by
    rintro before after rfl inGame rfl other
    exact ⟨other, fun _ => inGame⟩
  cases operation with
  | wake =>
    rcases s.frame_of_wake with kept | ⟨asleep, woken⟩
    · exact .inl (like kept)
    · exact .inr (turns asleep (by decide) (like woken) (by decide : EngineStatus.initialized ≠ _))
  | pause =>
    rcases s.frame_of_pause with kept | ⟨running, halted⟩
    · exact .inl (like kept)
    · exact .inr (turns running (by decide) (like halted) (by decide : EngineStatus.paused ≠ _))
  | resume =>
    rcases s.frame_of_resume with kept | ⟨paused, begun⟩
    · exact .inl (like kept)
    · exact .inr (turns paused (by decide) ((like begun).trans s.status_begun) (by decide))
  | shutdown =>
    refine .inr ⟨fun ended => ?_, fun stays => by cases stays⟩
    rw [like s.frame_of_shutdown] at ended
    cases ended
  | begin opening =>
    rcases status_of_starting (s.starting_step opening) with kept | running
    · exact .inl kept
    · refine .inr ⟨?_, fun stays => by cases stays⟩
      rw [running]
      decide
  | navigate id => exact .inl (s.entry_step id).1.status
  | updateSettings changes =>
    rcases s.frame_of_updateSettings changes with kept | changed
    · exact .inl (like kept)
    · split at changed
      · rename_i restarts
        exact .inl ((like changed).trans ((status_begun _).trans restarts.1.symm))
      · have kept : (s.adjusted changes).engine.status = s.engine.status := rfl
        exact .inl ((like changed).trans kept)
  | pass seconds =>
    refine .inl (Turn.pass_induction (P := fun t => t.engine.status = s.engine.status) ?_ ?_
      seconds rfl)
    · exact fun t time kept => kept
    · exact fun t kept timer _ => (t.status_fire timer).trans kept
  | useItem | interact | applyBundle | autosave | manualSave | listSlots | outside =>
    exact .inl (like (s.step_of_isQuiet rfl))
  | choose _ => cases unchosen

theorem rests_of_no_timers {scenery : Scenery} (none : scenery.1.timers = []) : Rests scenery :=
  fun _ => none

theorem rests_of_running {scenery : Scenery} (running : scenery.1.status = .running) :
    Rests scenery :=
  fun idle => absurd running idle

/-- An entry that fails sets no timer. -/
theorem rests_of_entry {id : Document} {mode : Turn.EntryMode} {before after : Scenery} {fault : Fault}
    (entry : Entry id mode before (.error fault) after) (h : Rests before) : Rests after :=
  fun idle => entry.no_timers (h (entry.status ▸ idle))

theorem rests_begun (s : Sitting) : Rests s.begun.scenery :=
  rests_of_running s.status_begun

theorem rests_of_starting {opening : Opening} {r : Except Fault PresentedScene} {t : Sitting}
    (starting : Starting opening s r t) (h : Rests s.scenery) : Rests t.scenery := by
  cases starting with
  | refused fault asleep kept => exact kept ▸ h
  | notFound fault missing kept => exact kept ▸ rests_of_no_timers rfl
  | failed fault found entry => exact rests_of_entry entry (rests_of_no_timers rfl)
  | @started s₁ u state presented event found entry => exact u.rests_begun

theorem rests_of_choosing {id : Document} {r : Except Fault ChoiceOutcome} {after : Scenery}
    (choosing : Choosing id s r after) (h : Rests s.scenery) : Rests after := by
  cases choosing with
  | refused fault => exact h
  | ended r running leaves => exact rests_of_no_timers rfl
  | led made running committed truthy entry leads =>
    exact rests_of_running (entry.status.trans running)
  | failed fault running committed truthy entry =>
    exact rests_of_running (entry.status.trans running)
  | putBack fault running committed truthy entry =>
    exact rests_of_running (entry.status.trans running)

/-- Whatever is done leaves no timer where no game runs. -/
theorem rests_step (h : Rests s.scenery) (operation : Operation) :
    Rests (s.step operation).scenery := by
  have like : ∀ {t : Sitting}, (s.step operation).frame = t.frame → Rests t.scenery →
      Rests (s.step operation).scenery := by
    intro t same rests
    have scenery : (s.step operation).scenery = t.scenery := congrArg Prod.fst same
    rwa [scenery]
  have unset : ∀ {status : EngineStatus}, s.engine.status = status → status ≠ .running →
      s.engine.timers = [] := by
    rintro status rfl idle
    exact h idle
  cases operation with
  | wake =>
    rcases s.frame_of_wake with kept | ⟨asleep, woken⟩
    · exact like kept h
    · exact like woken (rests_of_no_timers (unset asleep (by decide)))
  | pause =>
    rcases s.frame_of_pause with kept | ⟨-, halted⟩
    · exact like kept h
    · exact like halted (rests_of_no_timers rfl)
  | resume =>
    rcases s.frame_of_resume with kept | ⟨-, begun⟩
    · exact like kept h
    · exact like begun s.rests_begun
  | shutdown => exact like s.frame_of_shutdown (rests_of_no_timers rfl)
  | begin opening => exact rests_of_starting (s.starting_step opening) h
  | choose id => exact rests_of_choosing (s.choosing_step id) h
  | navigate id =>
    obtain ⟨entry, runs⟩ := s.entry_step id
    generalize result (Turn.navigate id) s = r at entry runs
    cases r with
    | ok presented => exact rests_of_running (entry.status.trans (runs presented rfl))
    | error fault => exact rests_of_entry entry h
  | updateSettings changes =>
    rcases s.frame_of_updateSettings changes with kept | changed
    · exact like kept h
    · split at changed
      · exact like changed (rests_begun _)
      · exact like changed h
  | pass seconds =>
    refine Turn.pass_induction (P := fun t => Rests t.scenery) ?_ ?_ seconds h
    · exact fun t time kept => kept
    · intro t kept timer set idle
      have none : t.engine.timers = [] := kept (t.status_fire timer ▸ idle)
      rw [none] at set
      cases set
  | useItem | interact | applyBundle | autosave | manualSave | listSlots | outside =>
    exact like (s.step_of_isQuiet rfl) h

/-- An engine that has ended refuses all that is done in a running game. -/
theorem refused_of_ended (ended : s.engine.status = .ended) (moves : operation.isMove = true) :
    ∃ fault : LifecycleFault, fault? operation.turn s = some (.lifecycle fault) ∧
      (s.step operation).engine.state = s.engine.state := by
  have idle : s.engine.status ≠ .running := by
    rw [ended]
    decide
  have active : s.engine.status ≠ .paused := by
    rw [ended]
    decide
  have refuses : ∀ {turn : Turn Unit} {fault : LifecycleFault} {t : Sitting},
      outcome turn s = (.error (.lifecycle fault), t) → t.engine.state = s.engine.state →
        ∃ fault : LifecycleFault, fault? turn s = some (.lifecycle fault) ∧
          (after turn s).engine.state = s.engine.state := by
    intro turn fault t refused kept
    refine ⟨fault, ?_, ?_⟩
    · rw [fault?, result, refused]
    · rw [after, refused]
      exact kept
  cases operation with
  | choose id =>
    obtain ⟨fault, refused⟩ := Turn.makeChoice_of_idle idle id
    exact refuses (outcome_bind_of_error refused _) (s.state_blame _ _)
  | navigate id =>
    obtain ⟨fault, refused⟩ := Turn.navigate_of_idle idle id
    exact refuses (outcome_bind_of_error refused _) (s.state_blame _ _)
  | useItem id =>
    obtain ⟨fault, refused⟩ : ∃ fault, outcome (Turn.useItem id) s =
        (.error (.lifecycle fault), s.blame "use_item" (.lifecycle fault)) :=
      Turn.guarded_of_idle idle _ _
    exact refuses (outcome_bind_of_error refused _) (s.state_blame _ _)
  | interact character kind =>
    obtain ⟨fault, refused⟩ : ∃ fault, outcome (Turn.interact character kind) s =
        (.error (.lifecycle fault), s.blame "interact" (.lifecycle fault)) :=
      Turn.guarded_of_idle idle _ _
    exact refuses (outcome_bind_of_error refused _) (s.state_blame _ _)
  | pause =>
    obtain ⟨fault, refused⟩ : ∃ fault, outcome Turn.pauseGame s = (.error (.lifecycle fault), s) := by
      unfold Turn.pauseGame
      rw [outcome_bind_of_ok (Turn.outcome_engine s), if_pos active]
      exact ⟨_, outcome_bind_of_error (Turn.outcome_requireStatus_of_ne idle "pause_game") _⟩
    exact refuses refused rfl
  | resume =>
    obtain ⟨fault, refused⟩ : ∃ fault, outcome Turn.resumeGame s = (.error (.lifecycle fault), s) := by
      unfold Turn.resumeGame
      rw [outcome_bind_of_ok (Turn.outcome_engine s), if_pos idle]
      exact ⟨_, outcome_bind_of_error (Turn.outcome_requireStatus_of_ne active "resume_game") _⟩
    exact refuses refused rfl
  | _ => cases moves

end Sitting

/-! ## Runs -/

/-- A choice that tells that it ended the story. -/
def Operation.Ends (s : Sitting) : Operation → Prop
  | .choose id => ∃ made, result (Turn.makeChoice id) s = .ok made ∧ made.ended = true
  | _ => False

/-- Where a choice is made, the scenes that the game has visited are named by keys. -/
def Operation.CountsVisits (s : Sitting) : Operation → Prop
  | .choose _ => ∀ visited, s.visits = some visited → Document.AreKeys visited
  | _ => True

/-- What an operation has to do with the end of a story: only a choice that tells so ends it, which is
announced once; and an engine that has ended stays so, refuses all that is done in a running game and
takes no notice of time, until a game is opened or it is shut down. -/
structure Operation.RespectsEnd (operation : Operation) (s t : Sitting) : Prop where
  finishes : operation.Ends s → s.Finishes t
  continues : ¬operation.Ends s → s.Continues t
  stays : s.engine.status = .ended → operation.staysIn = true → t.engine.status = .ended
  refuses : s.engine.status = .ended → operation.isMove = true →
    ∃ fault, fault? operation.turn s = some fault ∧ fault.family = "StateError" ∧
      t.engine.state = s.engine.state
  waits : s.engine.status = .ended → ∀ seconds, operation = .pass seconds → t.engine = s.engine

namespace Sitting

variable {s : Sitting} {operation : Operation}

/-- Who takes no choice that ends the story goes on with it. -/
theorem continues_step (drawn : Drawn s.engine.content s.scenery)
    (counts : operation.CountsVisits s) (spared : operation.Evades Fault.isOfConditions s)
    (unended : ¬operation.Ends s) :
    s.Continues (s.step operation) := by
  cases unchosen : operation.isChoice with
  | false =>
    refine ⟨fun ended => ?_, endings_step unchosen s⟩
    rcases status_step unchosen s with same | ⟨other, -⟩
    · exact same ▸ ended
    · exact absurd ended other
  | true =>
    cases operation with
    | choose id =>
      rw [step_choose]
      rcases ends : outcome (Turn.makeChoice id) s with ⟨r, t⟩
      rw [after, ends]
      cases r with
      | ok made =>
        have chosen := Turn.ended_of_makeChoice ends
        rw [if_neg fun ended => unended ⟨made, by rw [result, ends], ended⟩] at chosen
        exact chosen
      | error fault =>
        have failed : fault? (Turn.makeChoice id) s = some fault := by rw [fault?, result, ends]
        exact Turn.inGame_of_makeChoice drawn counts (spared fault failed) ends
    | _ => cases unchosen

theorem ended_step (ended : s.engine.status = .ended) (stays : operation.staysIn = true) :
    (s.step operation).engine.status = .ended := by
  cases unchosen : operation.isChoice with
  | false =>
    rcases status_step unchosen s with same | ⟨-, inGame⟩
    · exact same.trans ended
    · exact absurd ended (inGame stays)
  | true =>
    cases operation with
    | choose id =>
      have idle : s.engine.status ≠ .running := by
        rw [ended]
        decide
      obtain ⟨fault, refused⟩ := Turn.makeChoice_of_idle idle id
      rw [step_choose, after, refused]
      exact (Turn.status_blame s _ _).trans ended
    | _ => cases unchosen

theorem ended_run {operations : List Operation} (ended : s.engine.status = .ended)
    (stays : ∀ operation ∈ operations, operation.staysIn = true) :
    (s.run operations).engine.status = .ended := by
  induction operations generalizing s with
  | nil => exact ended
  | cons operation operations ih =>
    obtain ⟨own, others⟩ := List.forall_mem_cons.1 stays
    exact ih (ended_step ended own) others

theorem rests_run (h : Rests s.scenery) (operations : List Operation) :
    Rests (s.run operations).scenery := by
  induction operations generalizing s with
  | nil => exact h
  | cons operation operations ih => exact ih (rests_step h operation)

theorem respectsEnd_step (drawn : Drawn s.engine.content s.scenery) (rests : Rests s.scenery)
    (counts : operation.CountsVisits s) (spared : operation.Evades Fault.isOfConditions s) :
    operation.RespectsEnd s (s.step operation) where
  finishes ends := by
    cases operation with
    | choose id =>
      obtain ⟨made, chosen, ended⟩ := ends
      have finished := Turn.ended_of_makeChoice (Prod.ext chosen rfl :
        outcome (Turn.makeChoice id) s = (.ok made, after (Turn.makeChoice id) s))
      rw [if_pos ended] at finished
      rw [step_choose]
      exact finished
    | _ => cases ends
  continues := continues_step drawn counts spared
  stays := ended_step
  refuses ended moves := by
    obtain ⟨fault, refused, kept⟩ := refused_of_ended ended moves
    exact ⟨_, refused, rfl, kept⟩
  waits ended seconds isPass := by
    subst isPass
    refine engine_of_pass (rests ?_) seconds
    change s.engine.status ≠ .running
    rw [ended]
    decide

end Sitting

/-- Along every run, unless a choice comes to a condition that raises or is made where a scene was
visited that no key names: the story ends only by a choice that tells so, each of which is announced
as an end once, saved or not; and from then on, until a game is opened or the engine is shut down,
all that is done in a running game is refused as the engine's state forbids it, and leaves the state
of the game as it was, as does the passing of time. -/
theorem end_along_run (world : World) (content : Repository) (config : EngineConfig)
    (audio : AudioSink) {past : List Operation} {operation : Operation}
    (counts : (Sitting.fresh world content config audio).Throughout Operation.CountsVisits
      (past ++ [operation]))
    (spared : (Sitting.fresh world content config audio).Evades Fault.isOfConditions
      (past ++ [operation])) :
    let s := (Sitting.fresh world content config audio).run past
    operation.RespectsEnd s (s.step operation) ∧
      (s.engine.status = .ended → ∀ later : List Operation,
        (∀ operation ∈ later, operation.staysIn = true) → (s.run later).engine.status = .ended) := by
  intro s
  have drawn : Drawn content s.scenery := Sitting.drawn_run (Sitting.drawn_fresh _ _ _ _) past
  have isContent : s.engine.content = content := drawn.content
  have rests : Rests s.scenery := Sitting.rests_run (Sitting.rests_of_no_timers rfl) past
  refine ⟨?_, fun ended later stays => Sitting.ended_run ended stays⟩
  exact Sitting.respectsEnd_step (isContent.symm ▸ drawn) rests
    (Sitting.throughout_append.1 counts).2.1 (Sitting.throughout_append.1 spared).2.1

/-! ### A finale -/

namespace Finale

/-- Leads nowhere. -/
def leave : Choice where
  id := "leave"
  text := "Leave"

def hall : Scene where
  id := "hall"
  title := "Hall"
  content := "A hall."
  choiceIds := ["leave"]

def story : Story where
  id := "finale"
  title := "The finale"
  startingSceneId := "hall"
  scenes := [hall]
  choices := [leave]

/-- Nothing can be saved in it. -/
def world : World where
  now := 1000000.0
  store := { savingFault := some (.saving (.refused "no disk")) }

def fresh : Sitting :=
  .fresh world { volumes := [⟨story, none⟩] } {} {}

def toHall : List Operation :=
  [.wake, .begin (.newGame "finale" "Ada")]

/-- A saved game in which a list stands for a scene that was visited. -/
def torn : Document :=
  .object [("state", .object [("id", "torn"), ("storyId", "finale"), ("currentSceneId", "hall"),
    ("player", .object [("name", "Ada")]),
    ("progress", .object [("scenesVisited", .list [.list ["hall"]])])])]

def keeper : Sitting :=
  .fresh { now := 1000000.0, store := ({} : SaveStore).place "torn" torn }
    { volumes := [⟨story, none⟩] } {} {}

/-- The load fails once the scene is shown, and the game that ran before it runs on with the state
that was loaded. -/
def toTorn : List Operation :=
  toHall ++ [.begin (.savedGame "torn")]

end Finale

/-- To leave ends the story, though it cannot be saved. -/
theorem leaving_finishes :
    Finale.fresh.Throughout Operation.CountsVisits (Finale.toHall ++ [.choose "leave"]) ∧
    Finale.fresh.Evades Fault.isOfConditions (Finale.toHall ++ [.choose "leave"]) ∧
      (Operation.choose "leave").Ends (Finale.fresh.run Finale.toHall) ∧
      (Finale.fresh.run Finale.toHall).Finishes
        ((Finale.fresh.run Finale.toHall).step (.choose "leave")) := by
  have counts : Finale.fresh.Throughout Operation.CountsVisits
      (Finale.toHall ++ [.choose "leave"]) := by
    have visits : (Finale.fresh.run Finale.toHall).visits = some [Document.text "hall"] := by
      decide +kernel
    refine ⟨trivial, trivial, fun visited isVisited => ?_, trivial⟩
    obtain rfl : [Document.text "hall"] = visited := Option.some.inj (visits.symm.trans isVisited)
    exact List.forall_mem_singleton.2 rfl
  have leaves : (result (Turn.makeChoice "leave") (Finale.fresh.run Finale.toHall)).toOption.map
      ChoiceOutcome.ended = some true := by
    decide +kernel
  obtain ⟨made, chosen, ended⟩ := Option.map_eq_some_iff.1 leaves
  have chosen := Result.ok_of_toOption chosen
  have ends : (Operation.choose "leave").Ends (Finale.fresh.run Finale.toHall) :=
    ⟨made, chosen, ended⟩
  have spared : Finale.fresh.Evades Fault.isOfConditions
      (Finale.toHall ++ [.choose "leave"]) := by
    refine ⟨trivial, trivial, fun fault failed => ?_, trivial⟩
    have returned : fault? (Turn.makeChoice "leave") (Finale.fresh.run Finale.toHall) = none := by
      rw [fault?, chosen]
    have same : fault? (Turn.makeChoice "leave") (Finale.fresh.run Finale.toHall) = some fault :=
      failed
    rw [returned] at same
    cases same
  exact ⟨counts, spared, ends, (end_along_run _ _ _ _ counts spared).1.finishes ends⟩

/-- Where a list stands for a scene that was visited, the choice that ends the story fails when the
scenes are counted: no condition raises, the story has ended, and nothing tells so. -/
theorem end_not_announced :
    let s := Finale.keeper.run Finale.toTorn
    let t := s.step (.choose "leave")
    Finale.keeper.Evades Fault.isOfConditions (Finale.toTorn ++ [.choose "leave"]) ∧
      s.engine.status = .running ∧ t.engine.status = .ended ∧ t.endings = [] ∧
      ¬(Operation.choose "leave").Ends s ∧
      ¬(Operation.choose "leave").RespectsEnd s t := by
  intro s t
  have raised : fault? (Turn.makeChoice "leave") s = some (.mistyped (.notAnId "list")) := by
    decide +kernel
  have running : s.engine.status = .running := by decide +kernel
  have ended : t.engine.status = .ended := by decide +kernel
  have silent : t.endings = [] := by decide +kernel
  have unended : ¬(Operation.choose "leave").Ends s := by
    rintro ⟨made, chosen, -⟩
    rw [fault?, chosen] at raised
    cases raised
  have spared : Finale.keeper.Evades Fault.isOfConditions (Finale.toTorn ++ [.choose "leave"]) := by
    refine ⟨trivial, trivial, trivial, fun fault failed => ?_, trivial⟩
    obtain rfl : .mistyped (.notAnId "list") = fault := Option.some.inj (raised.symm.trans failed)
    rfl
  refine ⟨spared, running, ended, silent, unended, fun respects => ?_⟩
  have still := (respects.continues unended).status ended
  rw [running] at still
  cases still

end InteractiveFiction
