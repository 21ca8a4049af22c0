import InteractiveFiction.Proofs.Engine.Entry

/-!
Making a choice, stage by stage.

A choice is weighed (`weigh`), its effects are applied and it is put on record (`commit`), and then
it leads somewhere or ends the story (`conclude`).  Whoever is refused before the effects finds
everything as it was; the effects themselves fail only by accident (`commit_ends`).  All that can come
of a choice is said once, of one that is made (`conclusion_of_makeChoice`) and of one that fails
(`unmade_of_makeChoice`).
-/

set_option autoImplicit false

namespace InteractiveFiction

open Course

/-- A choice that was made, the state from before it, and what became of its effects. -/
structure Commitment where
  choice : Choice
  result : ChoiceResult
  before : GameState
  effects : List Outcome

/-- Where the choice leads: its effects may send the player elsewhere. -/
def Commitment.target (commitment : Commitment) : Document :=
  (Outcome.teleportTarget commitment.effects).getD commitment.choice.target

/-- What is announced of the choice. -/
def Commitment.announcement (commitment : Commitment) (id : Document) : Event :=
  .choiceMade id commitment.before.currentSceneId commitment.choice.text

namespace Turn

/-! ## The parts of a choice -/

/-- The choice of an id with the decision on it, if it may be made and leads to no scene that is
missing. -/
def weigh (id : Document) : Turn (Choice × ChoiceResult × GameState) := do
  let (choice, result) ← accept id
  let before ← state
  if choice.target.isTruthy then
    let _ ← (← engine).content.scene before.storyId choice.target
  pure (choice, result, before)

def commit (id : Document) : Turn Commitment := do
  let (choice, result, before) ← weigh id
  let effects ← onStage result.effects.process
  recordChoice id before.currentSceneId choice.text
  pure { choice, result, before, effects }

def conclude (id : Document) (commitment : Commitment) : Turn ChoiceOutcome := do
  let { choice, result, before, effects } := commitment
  if commitment.target.isTruthy then
    let entered ← follow commitment.target before
    publish (.choiceMade id before.currentSceneId choice.text)
    pure { choice := result, effects, scene := some entered }
  else
    publish (.choiceMade id before.currentSceneId choice.text)
    endGame
    pure { choice := result, effects, ended := true }

theorem resolveChoice_eq (id : Document) :
    resolveChoice id = (do
      let commitment ← commit id
      conclude id commitment) := by
  unfold resolveChoice commit weigh conclude Commitment.target
  simp only [bind_assoc]
  refine bind_congr fun accepted => bind_congr fun before => ?_
  split <;> simp only [bind_assoc, pure_bind]

theorem makeChoice_of_running {s : Sitting} (running : s.engine.status = .running)
    (id : Document) :
    outcome (makeChoice id) s =
      outcome (reporting "make_choice" (do
        let commitment ← commit id
        conclude id commitment)) s := by
  refine outcome_reporting_congr ?_ _
  rw [← resolveChoice_eq, outcome_bind_of_ok (outcome_engine s)]
  rw [running]
  exact outcome_bind_of_ok (outcome_requireStatus_of_eq running _) _

/-- Where no game runs, there is nothing to choose. -/
theorem makeChoice_of_idle {s : Sitting} (idle : s.engine.status ≠ .running) (id : Document) :
    ∃ fault, outcome (makeChoice id) s =
      (.error (.lifecycle fault), s.blame "make_choice" (.lifecycle fault)) := by
  by_cases ended : s.engine.status = .ended
  · refine ⟨.gameEnded, outcome_reporting_of_error ?_ _⟩
    rw [outcome_bind_of_ok (outcome_engine s), if_pos ended]
    rfl
  · refine ⟨.wrongStatus "make_choice" EngineStatus.running.label s.engine.status.label,
      outcome_reporting_of_error ?_ _⟩
    rw [outcome_bind_of_ok (outcome_engine s), if_neg ended]
    exact outcome_bind_of_error (outcome_requireStatus_of_ne idle "make_choice") _

theorem navigate_of_running {s : Sitting} (running : s.engine.status = .running) (id : Document) :
    outcome (navigate id) s =
      outcome (reporting "navigate_to_scene" (enterScene id {})) s := by
  refine outcome_reporting_congr ?_ _
  exact outcome_bind_of_ok (outcome_requireStatus_of_eq running _) _

theorem navigate_of_idle {s : Sitting} (idle : s.engine.status ≠ .running) (id : Document) :
    ∃ fault, outcome (navigate id) s =
      (.error (.lifecycle fault), s.blame "navigate_to_scene" (.lifecycle fault)) := by
  have refused := outcome_requireStatus_of_ne idle "navigate_to_scene"
  exact ⟨_, outcome_reporting_of_error (outcome_bind_of_error refused _) _⟩

/-! ## Refusals before the effects -/

theorem accept_reads (id : Document) : Confined (fun s => s) AnyFault (accept id) := by
  refine .bind confined_engine fun engine => ?_
  split
  · exact .throw trivial
  · split
    · exact .bind (confined_lift (Result.anyFault _)) fun _ => .throw trivial
    · refine .bind confined_now fun now => .bind (confined_state trivial) fun state => ?_
      refine .bind (confined_lift (Result.anyFault _)) fun result => ?_
      exact .branch (.pure _) (.throw trivial)

theorem weigh_reads (id : Document) : Confined (fun s => s) AnyFault (weigh id) := by
  refine .bind (accept_reads id) fun accepted => .bind (confined_state trivial) fun before => ?_
  refine .branch (.bind confined_engine fun engine => ?_) (.pure _)
  exact .bind (confined_lift (Result.anyFault _)) fun _ => .pure _

theorem before_of_weigh {id : Document} {s s' : Sitting} {choice : Choice} {result : ChoiceResult}
    {before : GameState} (h : outcome (weigh id) s = (.ok (choice, result, before), s')) :
    s.engine.state = some before := by
  obtain ⟨accepted, s₁, acceptance, afterAccept⟩ := ok_of_outcome_bind h
  have same := (accept_reads id).after_eq s
  rw [after, acceptance] at same
  dsimp only at same
  subst same
  obtain ⟨state, s₂, isState, afterState⟩ := ok_of_outcome_bind afterAccept
  have isBefore : state = before := by
    split at afterState
    · obtain ⟨engine, s₃, -, afterEngine⟩ := ok_of_outcome_bind afterState
      obtain ⟨scene, s₄, -, weighed⟩ := ok_of_outcome_bind afterEngine
      cases weighed
      rfl
    · cases afterState
      rfl
  subst isBefore
  exact (some_of_outcome_state isState).2

/-- The footing, and what was announced that is not of bundles. -/
def backstage (s : Sitting) : (Engine × Option Place) × List EventRecord :=
  (s.footing, announcements s.engine.published)

theorem onStage_backstage {α : Type} {action : Action α} (h : InFront action) :
    Confined backstage Fault.IsAccident (onStage action) :=
  (onStage_steady h).and (onStage_announces h)

theorem commit_ends {id : Document} {s s' : Sitting} {r : Except Fault Commitment}
    (ends : outcome (commit id) s = (r, s')) :
    backstage s' = backstage s ∧
      match r with
      | .error fault => fault.turnsAway = true → s' = s
      | .ok commitment => s.engine.state = some commitment.before := by
  rcases weighed : outcome (weigh id) s with ⟨r₁, s₁⟩
  have same := (weigh_reads id).after_eq s
  rw [after, weighed] at same
  dsimp only at same
  subst same
  unfold commit at ends
  cases r₁ with
  | error fault =>
    rw [outcome_bind_of_error weighed] at ends
    cases ends
    exact ⟨rfl, fun _ => rfl⟩
  | ok value =>
    obtain ⟨choice, result, before⟩ := value
    rw [outcome_bind_of_ok weighed] at ends
    dsimp only at ends
    rcases applied : outcome (onStage result.effects.process) s₁ with ⟨r₂, s₂⟩
    obtain ⟨kept, accident⟩ := (onStage_backstage result.effects.process_inFront).of_outcome applied
    cases r₂ with
    | error fault =>
      rw [outcome_bind_of_error applied] at ends
      cases ends
      -- The effects may be half applied here, but they fail by accident, which turns nobody away.
      refine ⟨kept, fun turnsAway => ?_⟩
      have ofGame := Fault.isOfGame_of_turnsAway turnsAway
      rw [accident fault rfl] at ofGame
      cases ofGame
    | ok effects =>
      rw [outcome_bind_of_ok applied] at ends
      have record : Confined backstage (fun _ => False)
          (recordChoice id before.currentSceneId choice.text) :=
        (recordChoice_steady _ _ _).and (.bind confined_now fun _ => .modify fun _ => rfl)
      rcases recorded : outcome (recordChoice id before.currentSceneId choice.text) s₂ with ⟨r₃, s₃⟩
      obtain ⟨kept', never⟩ := record.of_outcome recorded
      cases r₃ with
      | error fault => exact absurd (never fault rfl) not_false
      | ok _ =>
        rw [outcome_bind_of_ok recorded] at ends
        cases ends
        exact ⟨kept'.trans kept, before_of_weigh weighed⟩

theorem status_of_commit {id : Document} {s s' : Sitting} {r : Except Fault Commitment}
    (ends : outcome (commit id) s = (r, s')) : s'.engine.status = s.engine.status :=
  congrArg (fun backstage => backstage.1.1.status) (commit_ends ends).1

/-- Whoever commits to a choice is still in the game. -/
theorem inGame_of_commit {id : Document} {s s' : Sitting} {r : Except Fault Commitment}
    (running : s.engine.status = .running) (ends : outcome (commit id) s = (r, s')) :
    s'.engine.status ≠ .ended := by
  rw [status_of_commit ends, running]
  decide

/-! ## Where a choice leads -/

end Turn

/-- The sitting with the state of its game put back. -/
def Sitting.putBack (s : Sitting) (before : GameState) : Sitting :=
  { s with engine := { s.engine with state := s.engine.state.map fun _ => before } }

namespace Turn

theorem outcome_follow_of_ok {target : Document} {s s' : Sitting} {presented : PresentedScene}
    (h : outcome (enterScene target {}) s = (.ok presented, s')) (before : GameState) :
    outcome (follow target before) s = (.ok presented, s') := by
  unfold follow
  rw [outcome_tryCatch, h]

theorem outcome_follow_of_error {target : Document} {s s' : Sitting} {fault : Fault}
    (h : outcome (enterScene target {}) s = (.error fault, s')) (before : GameState) :
    outcome (follow target before) s =
      (.error fault, if fault.isOfGame then s'.putBack before else s') := by
  unfold follow
  rw [outcome_tryCatch, h]
  dsimp only
  split
  · rw [outcome_bind_of_ok (outcome_modifyState _ _), outcome_throw]
    rfl
  · rw [outcome_throw]

end Turn

/-- The sitting once the story has ended. -/
def Sitting.concluded (s : Sitting) : Sitting :=
  { s with engine := { s.engine with status := .ended }.stopTimers }

namespace Turn

theorem announceEnd_steady : Steady Fault.IsMild announceEnd :=
  .bind (confined_state rfl) fun state => .bind (confined_lift (visitedCount_mild state)) fun _ =>
    publish_steady _

/-- The end of a story stops the timers, and leaves the rest of the footing alone. -/
theorem endGame_leaves {s s' : Sitting} {r : Except Fault Unit} (inGame : s.engine.status ≠ .ended)
    (ends : outcome endGame s = (r, s')) :
    s'.footing = s.concluded.footing ∧ Result.FailsIn Fault.IsMild r := by
  unfold endGame at ends
  rw [outcome_bind_of_ok (outcome_engine s), if_pos inGame] at ends
  rw [outcome_bind_of_ok (outcome_modifyEngine _ _)] at ends
  have lastSave : Steady Fault.IsMild (do let _ ← save finalSaveName false) :=
    .bind (save_steady _ _) fun _ => .pure ()
  have rest : Steady Fault.IsMild (do
      checkAchievements
      tryCatch
        (do
          let _ ← save finalSaveName false)
        fun fault => report "end_game" fault
      play .stopAll
      announceEnd) := by
    refine .bind checkAchievements_steady fun _ => ?_
    refine .bind (.tryCatch lastSave fun fault _ => report_steady _ _) fun _ => ?_
    exact .bind (play_steady _) fun _ => announceEnd_steady
  exact rest.of_outcome ends

/-- The story has ended, whatever fails then. -/
theorem endGame_ends {s s' : Sitting} {r : Except Fault Unit} (inGame : s.engine.status ≠ .ended)
    (ends : outcome endGame s = (r, s')) :
    s'.engine.status = .ended ∧ Result.FailsIn Fault.IsMild r := by
  obtain ⟨kept, mild⟩ := endGame_leaves inGame ends
  exact ⟨congrArg (fun footing : Engine × Option Place => footing.1.status) kept, mild⟩

theorem ok_of_follow {target : Document} {before : GameState} {s s' : Sitting}
    {presented : PresentedScene} (ends : outcome (follow target before) s = (.ok presented, s')) :
    outcome (enterScene target {}) s = (.ok presented, s') := by
  rcases entered : outcome (enterScene target {}) s with ⟨r, s₁⟩
  cases r with
  | ok shown =>
    rw [outcome_follow_of_ok entered] at ends
    exact ends
  | error fault =>
    rw [outcome_follow_of_error entered] at ends
    cases ends

theorem error_of_follow {target : Document} {before : GameState} {s s' : Sitting} {fault : Fault}
    (ends : outcome (follow target before) s = (.error fault, s')) :
    ∃ s₁, outcome (enterScene target {}) s = (.error fault, s₁) ∧
      s' = if fault.isOfGame then s₁.putBack before else s₁ := by
  rcases entered : outcome (enterScene target {}) s with ⟨r, s₁⟩
  cases r with
  | ok presented =>
    rw [outcome_follow_of_ok entered] at ends
    cases ends
  | error fault' =>
    rw [outcome_follow_of_error entered] at ends
    cases ends
    exact ⟨s₁, rfl, rfl⟩

/-! ## What comes of a choice -/

/-- How a choice that is committed ends: it leads to a scene, which may not be entered, or it ends the
story, which may fail. -/
inductive Conclusion (id : Document) (commitment : Commitment) (s : Sitting) :
    Except Fault ChoiceOutcome → Sitting → Prop where
  | led {t : Sitting} {presented : PresentedScene} (truthy : commitment.target.isTruthy = true)
    (entered : outcome (enterScene commitment.target {}) s = (.ok presented, t)) :
    Conclusion id commitment s
      (.ok {
        choice := commitment.result
        effects := commitment.effects
        scene := some presented })
      (t.announce (commitment.announcement id))
  | unfollowed {t : Sitting} {fault : Fault} (truthy : commitment.target.isTruthy = true)
    (unentered : outcome (enterScene commitment.target {}) s = (.error fault, t)) :
    Conclusion id commitment s (.error fault)
      (if fault.isOfGame then t.putBack commitment.before else t)
  | ended {t : Sitting}
    (closed : outcome endGame (s.announce (commitment.announcement id)) = (.ok (), t)) :
    Conclusion id commitment s
      (.ok { choice := commitment.result, effects := commitment.effects, ended := true }) t
  | unended {t : Sitting} {fault : Fault}
    (unclosed : outcome endGame (s.announce (commitment.announcement id)) = (.error fault, t)) :
    Conclusion id commitment s (.error fault) t

theorem conclusion_of_conclude {id : Document} {commitment : Commitment} {s t : Sitting}
    {r : Except Fault ChoiceOutcome} (ends : outcome (conclude id commitment) s = (r, t)) :
    Conclusion id commitment s r t := by
  unfold conclude at ends
  dsimp only at ends
  split at ends
  · rename_i truthy
    rcases followed : outcome (follow commitment.target commitment.before) s with ⟨r', s'⟩
    cases r' with
    | ok presented =>
      rw [outcome_bind_of_ok followed] at ends
      cases ends
      exact .led truthy (ok_of_follow followed)
    | error fault =>
      rw [outcome_bind_of_error followed] at ends
      cases ends
      obtain ⟨s₁, unentered, rfl⟩ := error_of_follow followed
      exact .unfollowed truthy unentered
  · rw [outcome_bind_of_ok (outcome_publish _ _)] at ends
    change outcome (endGame >>= fun _ => pure _) (s.announce (commitment.announcement id)) = _ at ends
    rcases closing : outcome endGame (s.announce (commitment.announcement id)) with ⟨r', s'⟩
    cases r' with
    | ok _ =>
      rw [outcome_bind_of_ok closing] at ends
      cases ends
      exact .ended closing
    | error fault =>
      rw [outcome_bind_of_error closing] at ends
      cases ends
      exact .unended closing

/-- How a choice fails, but for the report. -/
inductive Unmade (id : Document) (s : Sitting) : Fault → Sitting → Prop where
  | idle (other : s.engine.status ≠ .running) (fault : LifecycleFault) :
    Unmade id s (.lifecycle fault) s
  | uncommitted {fault : Fault} {t : Sitting} (running : s.engine.status = .running)
    (uncommitted : outcome (commit id) s = (.error fault, t)) : Unmade id s fault t
  | unconcluded {commitment : Commitment} {s' t : Sitting} {fault : Fault}
    (running : s.engine.status = .running)
    (committed : outcome (commit id) s = (.ok commitment, s'))
    (conclusion : Conclusion id commitment s' (.error fault) t) : Unmade id s fault t

theorem conclusion_of_makeChoice {id : Document} {s t : Sitting} {made : ChoiceOutcome}
    (chosen : outcome (makeChoice id) s = (.ok made, t)) :
    s.engine.status = .running ∧ ∃ commitment s', outcome (commit id) s = (.ok commitment, s') ∧
      Conclusion id commitment s' (.ok made) t := by
  by_cases running : s.engine.status = .running
  · rw [makeChoice_of_running running] at chosen
    obtain ⟨commitment, s', committed, concluded⟩ := ok_of_outcome_bind (ok_of_reporting chosen)
    exact ⟨running, commitment, s', committed, conclusion_of_conclude concluded⟩
  · obtain ⟨fault, idle⟩ := makeChoice_of_idle running id
    rw [idle] at chosen
    cases chosen

theorem unmade_of_makeChoice {id : Document} {s t : Sitting} {fault : Fault}
    (failed : outcome (makeChoice id) s = (.error fault, t)) :
    ∃ s', Unmade id s fault s' ∧ t = s'.blame "make_choice" fault := by
  by_cases running : s.engine.status = .running
  · rw [makeChoice_of_running running] at failed
    obtain ⟨s', unmade, left⟩ := error_of_reporting failed
    refine ⟨s', ?_, left⟩
    rcases error_of_outcome_bind unmade with uncommitted | ⟨commitment, s₁, committed, unmade⟩
    · exact .uncommitted running uncommitted
    · exact .unconcluded running committed (conclusion_of_conclude unmade)
  · obtain ⟨fault', idle⟩ := makeChoice_of_idle running id
    rw [idle] at failed
    cases failed
    exact ⟨s, .idle running fault', rfl⟩

/-- A player whom a scene turns away finds the state from before the choice; what follows a choice
turns nobody else away. -/
theorem turnedAway_of_conclusion {id : Document} {commitment : Commitment} {s s' : Sitting}
    {fault : Fault} (inGame : s.engine.status ≠ .ended) (turnsAway : fault.turnsAway = true)
    (conclusion : Conclusion id commitment s (.error fault) s') :
    s' = (after sweep s).putBack commitment.before := by
  cases conclusion with
  | unfollowed truthy unentered =>
    obtain ⟨lapsed, swept⟩ := swept_of_turnsAway turnsAway unentered
    rw [if_pos (Fault.isOfGame_of_turnsAway turnsAway), after, swept]
  | unended unclosed =>
    have inGame' : (s.announce (commitment.announcement id)).engine.status ≠ .ended := inGame
    obtain ⟨-, mild⟩ := endGame_ends inGame' unclosed
    exact absurd (mild fault rfl) (Fault.not_isMild turnsAway)

end Turn

end InteractiveFiction
