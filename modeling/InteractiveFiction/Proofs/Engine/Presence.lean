import InteractiveFiction.Proofs.Engine.Stance

/-!
A game in progress is shown where it stands: there is a state, a scene is shown, and it is the scene
at which the state stands (`Sitting.InPlay`).

Most operations keep that, and three may tear it: opening a game over the one in progress,
navigating and choosing, when a scene is entered and something fails between the change of the state
and the change of what is shown, or when only one of the two is put back (`Tears`).  Along a run of
any operations a game is in play throughout exactly if none of them tears it
(`inPlay_along_run_iff`).
-/

set_option autoImplicit false

namespace InteractiveFiction

open Course

/-! ## In play -/

namespace Sitting

/-- A game in progress is shown where it stands. -/
def InPlay (s : Sitting) : Prop :=
  s.InProgress → ∃ state presented, s.engine.state = some state ∧
    s.engine.scene = some presented ∧ presented.scene.id = state.currentSceneId

variable {s t : Sitting} {status : EngineStatus} {presented : PresentedScene} {place : Place}

theorem shown_of_inPlay (h : s.InPlay) (inProgress : s.InProgress) :
    ∃ presented place, s.stance = (s.engine.status, some presented, some place) ∧
      presented.scene.id = place.scene := by
  obtain ⟨state, presented, isState, isScene, same⟩ := h inProgress
  refine ⟨presented, state.place, stance_eq_iff.2 ⟨rfl, isScene, ?_⟩, same⟩
  rw [Engine.place, isState]
  rfl

theorem inPlay_iff_of_stance (h : s.stance = (status, some presented, some place))
    (inProgress : s.InProgress) : s.InPlay ↔ presented.scene.id = place.scene := by
  obtain ⟨-, isScene, isPlace⟩ := stance_eq_iff.1 h
  obtain ⟨state, isState, rfl⟩ := Engine.state_of_place isPlace
  constructor
  · intro inPlay
    obtain ⟨state', presented', isState', isScene', same⟩ := inPlay inProgress
    rw [isState] at isState'
    rw [isScene] at isScene'
    cases isState'
    cases isScene'
    exact same
  · exact fun same _ => ⟨state, presented, isState, isScene, same⟩

theorem inPlay_of_stance (h : s.stance = (status, some presented, some place))
    (same : presented.scene.id = place.scene) : s.InPlay :=
  fun inProgress => (inPlay_iff_of_stance h inProgress).2 same inProgress

theorem inPlay_of_stance_eq (h : t.stance = s.stance) (inPlay : s.InPlay) : t.InPlay := by
  intro inProgress
  have status : t.engine.status = s.engine.status := (stance_eq_iff.1 h).1
  have inProgress' : s.InProgress := by
    rw [InProgress, ← status]
    exact inProgress
  obtain ⟨presented, place, stance, same⟩ := shown_of_inPlay inPlay inProgress'
  exact inPlay_of_stance (h.trans stance) same inProgress

/-- Without a game in progress there is nothing to show. -/
theorem inPlay_of_status (running : s.engine.status ≠ .running)
    (paused : s.engine.status ≠ .paused) : s.InPlay := by
  rintro (h | h)
  · exact absurd h running
  · exact absurd h paused

theorem inPlay_iff_of_not_shown (h : s.engine.scene = none) : s.InPlay ↔ ¬ s.InProgress := by
  constructor
  · intro inPlay inProgress
    obtain ⟨state, presented, -, isScene, -⟩ := inPlay inProgress
    rw [h] at isScene
    cases isScene
  · exact fun never inProgress => absurd inProgress never

theorem inProgress_iff_of_status (h : t.engine.status = s.engine.status) :
    t.InProgress ↔ s.InProgress := by
  unfold InProgress
  rw [h]

theorem stance_blame (s : Sitting) (operation : String) (fault : Fault) :
    (s.blame operation fault).stance = s.stance :=
  Turn.stance_of_footing (footing_blame s operation fault)

theorem inPlay_blame_iff (s : Sitting) (operation : String) (fault : Fault) :
    (s.blame operation fault).InPlay ↔ s.InPlay :=
  ⟨inPlay_of_stance_eq (stance_blame s operation fault).symm,
    inPlay_of_stance_eq (stance_blame s operation fault)⟩

theorem stance_putBack {before : GameState} (h : s.stance = (status, some presented, some place)) :
    (s.putBack before).stance = (status, some presented, some before.place) := by
  obtain ⟨isStatus, isScene, isPlace⟩ := stance_eq_iff.1 h
  obtain ⟨state, isState, -⟩ := Engine.state_of_place isPlace
  refine stance_eq_iff.2 ⟨isStatus, isScene, ?_⟩
  unfold putBack Engine.place
  rw [isState]
  rfl

end Sitting

/-! ## What tears a game -/

/-- An entry in the course of a choice that fails between the change of the state and the change of
what is shown, by accident, or after both, when only the state is put back. -/
def Splits (target : Document) (before : GameState) (s : Sitting) : Prop :=
  target ≠ before.currentSceneId ∧ ∃ fault,
    (Turn.entryEnd target {} s = .stranded fault ∧ fault.isOfGame = false) ∨
    (Turn.entryEnd target {} s = .unsettled fault ∧ fault.isOfGame = true)

/-- The operations that, done to a sitting, leave a game in progress that is not shown where it
stands. -/
def Tears (s : Sitting) : Operation → Prop
  | .begin opening =>
    s.InProgress ∧ ∃ fault, opening.entryEnd? s = some (.turnedAway fault) ∨
      opening.entryEnd? s = some (.stranded fault)
  | .navigate id =>
    s.engine.status = .running ∧ s.engine.place.map Place.scene ≠ some id ∧
      ∃ fault, Turn.entryEnd id {} s = .stranded fault
  | .choose id =>
    s.engine.status = .running ∧ ∃ commitment s', outcome (Turn.commit id) s = (.ok commitment, s') ∧
      commitment.target.isTruthy = true ∧ Splits commitment.target commitment.before s'
  | _ => False

/-! ## One operation -/

namespace Sitting

variable {s : Sitting} {presented : PresentedScene}

/-- An operation that leaves the stance alone, apart from whether a game runs or pauses. -/
theorem inPlay_of_status_only {t : Sitting} (status : s.InProgress ∨ ¬ t.InProgress)
    (scene : t.engine.scene = s.engine.scene) (place : t.engine.place = s.engine.place)
    (inPlay : s.InPlay) : t.InPlay := by
  intro inProgress
  rcases status with before | never
  · obtain ⟨presented, p, stance, same⟩ := shown_of_inPlay inPlay before
    obtain ⟨-, isScene, isPlace⟩ := stance_eq_iff.1 stance
    have shown := stance_eq_iff.2 ⟨rfl, scene.trans isScene, place.trans isPlace⟩
    exact inPlay_of_stance shown same inProgress
  · exact absurd inProgress never

theorem inPlay_wake (inPlay : s.InPlay) : (s.step .wake).InPlay := by
  unfold step Operation.turn Turn.wake
  rw [after, outcome_bind_of_ok (Turn.outcome_engine s)]
  split
  · rw [Turn.outcome_modifyEngine]
    exact inPlay_of_status (by simp) (by simp)
  · exact inPlay

theorem inPlay_pause (inPlay : s.InPlay) : (s.step .pause).InPlay := by
  unfold step Operation.turn Turn.pauseGame
  rw [after, outcome_bind_of_ok (Turn.outcome_engine s)]
  split
  · by_cases running : s.engine.status = .running
    · rw [outcome_bind_of_ok (Turn.outcome_requireStatus_of_eq running _)]
      exact inPlay_of_status_only (.inl (.inl running)) rfl rfl inPlay
    · rw [outcome_bind_of_error (Turn.outcome_requireStatus_of_ne running _)]
      exact inPlay
  · exact inPlay

theorem inPlay_resume (inPlay : s.InPlay) : (s.step .resume).InPlay := by
  unfold step Operation.turn Turn.resumeGame
  rw [after, outcome_bind_of_ok (Turn.outcome_engine s)]
  split
  · by_cases paused : s.engine.status = .paused
    · rw [outcome_bind_of_ok (Turn.outcome_requireStatus_of_eq paused _)]
      obtain ⟨-, scene, place⟩ := stance_eq_iff.1 s.stance_begun
      exact inPlay_of_status_only (.inl (.inr paused)) scene place inPlay
    · rw [outcome_bind_of_error (Turn.outcome_requireStatus_of_ne paused _)]
      exact inPlay
  · exact inPlay

theorem inPlay_shutdown (s : Sitting) : (s.step .shutdown).InPlay := by
  have ended : (s.step .shutdown).engine.status = .uninitialized := by
    unfold step Operation.turn Turn.shutdown
    rw [after, outcome_bind_of_ok (Turn.outcome_stopTimers s)]
    rw [outcome_bind_of_ok (Turn.outcome_engine _)]
    split <;> rfl
  refine inPlay_of_status ?_ ?_
  · rw [ended]
    decide
  · rw [ended]
    decide

theorem inPlay_navigate_iff (inPlay : s.InPlay) (id : Document) :
    (s.step (.navigate id)).InPlay ↔ ¬ Tears s (.navigate id) := by
  have left : s.step (.navigate id) = after (Turn.navigate id) s := Turn.after_discard _ s
  by_cases running : s.engine.status = .running
  · obtain ⟨presented, place, stance, same⟩ := shown_of_inPlay inPlay (.inl running)
    obtain ⟨-, isScene, isPlace⟩ := stance_eq_iff.1 stance
    rw [left, after, Turn.navigate_of_running running id]
    cases entry : Turn.entryEnd id {} s with
    | turnedAway fault =>
      rw [Turn.outcome_reporting_of_error (Turn.entry_turnedAway entry), inPlay_blame_iff]
      refine iff_of_true (inPlay_of_stance_eq ?_ inPlay) ?_
      · exact Turn.stance_of_footing (Turn.sweep_steady.keeps s)
      · rintro ⟨-, -, fault', stranded⟩
        rw [entry] at stranded
        cases stranded
    | stranded fault =>
      obtain ⟨-, t, stranded, scenery⟩ := Turn.entry_stranded entry
      rw [Turn.outcome_reporting_of_error stranded, inPlay_blame_iff]
      have moved := stance_of_movedScenery scenery
      rw [isScene, isPlace] at moved
      have inProgress : t.InProgress :=
        (inProgress_iff_of_status (stance_eq_iff.1 moved).1).2 (.inl running)
      rw [inPlay_iff_of_stance moved inProgress, same]
      constructor
      · rintro rfl ⟨-, elsewhere, -⟩
        rw [isPlace] at elsewhere
        exact elsewhere rfl
      · intro whole
        by_cases here : place.scene = id
        · exact here
        · refine absurd ⟨running, ?_, fault, entry⟩ whole
          rw [isPlace]
          exact fun same => here (Option.some.inj same)
    | unsettled fault =>
      obtain ⟨-, t, presented', now, unsettled, shows, scenery⟩ := Turn.entry_unsettled entry
      rw [Turn.outcome_reporting_of_error unsettled, inPlay_blame_iff]
      have moved := stance_of_shownScenery scenery
      rw [isPlace] at moved
      refine iff_of_true (inPlay_of_stance moved shows) ?_
      rintro ⟨-, -, fault', stranded⟩
      rw [entry] at stranded
      cases stranded
    | arrived presented' =>
      obtain ⟨t, arrived, shows, moved⟩ := Turn.entry_arrived entry
      rw [Turn.outcome_reporting_of_ok arrived]
      rw [isPlace] at moved
      refine iff_of_true (inPlay_of_stance moved shows) ?_
      rintro ⟨-, -, fault', stranded⟩
      rw [entry] at stranded
      cases stranded
  · obtain ⟨fault, idle⟩ := Turn.navigate_of_idle running id
    rw [left, after, idle, inPlay_blame_iff]
    exact iff_of_true inPlay fun tears => running tears.1

theorem inPlay_begin_iff (inPlay : s.InPlay) (opening : Opening) :
    (s.step (.begin opening)).InPlay ↔ ¬ Tears s (.begin opening) := by
  have left : s.step (.begin opening) = after opening.turn s := Turn.after_discard _ s
  rw [left, after]
  by_cases initialized : s.engine.status = .uninitialized
  · obtain ⟨fault, refused⟩ := Opening.turn_of_uninitialized initialized
    rw [refused, inPlay_blame_iff]
    exact iff_of_true inPlay fun tears => tears.1.initialized initialized
  · cases entry : opening.entryEnd? s with
    | none =>
      obtain ⟨fault, t, ended, engine⟩ := Opening.turn_of_nothing_found initialized entry
      rw [ended, inPlay_blame_iff]
      refine iff_of_true (inPlay_of_stance_eq ?_ inPlay) ?_
      · rw [stance, engine]
        rfl
      · rintro ⟨-, fault', turned | turned⟩ <;> rw [entry] at turned <;> cases turned
    | some entryEnd =>
      cases entryEnd with
      | turnedAway fault =>
        obtain ⟨t, ended, status, -, scene⟩ := Opening.turn_of_turnedAway initialized entry
        rw [ended, inPlay_blame_iff, inPlay_iff_of_not_shown scene, inProgress_iff_of_status status]
        exact not_congr ⟨fun inProgress => ⟨inProgress, fault, .inl entry⟩, fun tears => tears.1⟩
      | stranded fault =>
        obtain ⟨t, ended, status, -, scene⟩ := Opening.turn_of_stranded initialized entry
        rw [ended, inPlay_blame_iff, inPlay_iff_of_not_shown scene, inProgress_iff_of_status status]
        exact not_congr ⟨fun inProgress => ⟨inProgress, fault, .inr entry⟩, fun tears => tears.1⟩
      | unsettled fault =>
        obtain ⟨t, presented, place, ended, -, stance, shows⟩ :=
          Opening.turn_of_unsettled initialized entry
        rw [ended, inPlay_blame_iff]
        refine iff_of_true (inPlay_of_stance stance shows) ?_
        rintro ⟨-, fault', turned | turned⟩ <;> rw [entry] at turned <;> cases turned
      | arrived presented =>
        obtain ⟨t, place, ended, stance, shows⟩ := Opening.turn_of_arrived initialized entry
        rw [ended]
        refine iff_of_true (inPlay_of_stance stance shows) ?_
        rintro ⟨-, fault', turned | turned⟩ <;> rw [entry] at turned <;> cases turned

theorem inPlay_follow_iff {target : Document} {before : GameState}
    (stance : s.stance = (.running, some presented, some before.place))
    (same : presented.scene.id = before.currentSceneId) :
    (after (Turn.follow target before) s).InPlay ↔ ¬ Splits target before s := by
  obtain ⟨isStatus, isScene, isPlace⟩ := stance_eq_iff.1 stance
  cases entry : Turn.entryEnd target {} s with
  | turnedAway fault =>
    have swept : (after Turn.sweep s).stance = (.running, some presented, some before.place) :=
      (Turn.stance_of_footing (Turn.sweep_steady.keeps s)).trans stance
    rw [after, Turn.outcome_follow_of_error (Turn.entry_turnedAway entry)]
    refine iff_of_true ?_ ?_
    · dsimp only
      split
      · exact inPlay_of_stance (stance_putBack swept) same
      · exact inPlay_of_stance swept same
    · rintro ⟨-, fault', ⟨ended, -⟩ | ⟨ended, -⟩⟩ <;> rw [entry] at ended <;> cases ended
  | stranded fault =>
    obtain ⟨-, t, stranded, scenery⟩ := Turn.entry_stranded entry
    have moved := stance_of_movedScenery scenery
    rw [isStatus, isScene, isPlace] at moved
    rw [after, Turn.outcome_follow_of_error stranded]
    cases ofGame : fault.isOfGame with
    | true =>
      refine iff_of_true (inPlay_of_stance (stance_putBack moved) same) ?_
      rintro ⟨-, fault', ⟨ended, accident⟩ | ⟨ended, -⟩⟩ <;> rw [entry] at ended <;> cases ended
      rw [ofGame] at accident
      cases accident
    | false =>
      have inProgress : t.InProgress := .inl (stance_eq_iff.1 moved).1
      refine (inPlay_iff_of_stance moved inProgress).trans ?_
      rw [same]
      refine ⟨fun here splits => splits.1 here.symm, fun whole => ?_⟩
      by_cases here : target = before.currentSceneId
      · exact here.symm
      · exact absurd ⟨here, fault, .inl ⟨entry, ofGame⟩⟩ whole
  | unsettled fault =>
    obtain ⟨-, t, presented', now, unsettled, shows, scenery⟩ := Turn.entry_unsettled entry
    have moved := stance_of_shownScenery scenery
    rw [isStatus, isPlace] at moved
    rw [after, Turn.outcome_follow_of_error unsettled]
    cases ofGame : fault.isOfGame with
    | true =>
      have back : (t.putBack before).stance = (.running, some presented', some before.place) :=
        stance_putBack moved
      have inProgress : (t.putBack before).InProgress := .inl (stance_eq_iff.1 back).1
      refine (inPlay_iff_of_stance back inProgress).trans ?_
      rw [shows]
      refine ⟨fun here splits => splits.1 here, fun whole => ?_⟩
      by_cases here : target = before.currentSceneId
      · exact here
      · exact absurd ⟨here, fault, .inr ⟨entry, ofGame⟩⟩ whole
    | false =>
      refine iff_of_true (inPlay_of_stance moved shows) ?_
      rintro ⟨-, fault', ⟨ended, -⟩ | ⟨ended, known⟩⟩ <;> rw [entry] at ended <;> cases ended
      rw [ofGame] at known
      cases known
  | arrived presented' =>
    obtain ⟨t, arrived, shows, moved⟩ := Turn.entry_arrived entry
    rw [isPlace] at moved
    rw [after, Turn.outcome_follow_of_ok arrived]
    refine iff_of_true (inPlay_of_stance moved shows) ?_
    rintro ⟨-, fault', ⟨ended, -⟩ | ⟨ended, -⟩⟩ <;> rw [entry] at ended <;> cases ended

/-- A choice that leads nowhere ends the game, and one that leads somewhere is followed. -/
theorem inPlay_conclude_iff {id : Document} {commitment : Commitment}
    (stance : s.stance = (.running, some presented, some commitment.before.place))
    (same : presented.scene.id = commitment.before.currentSceneId) :
    (after (Turn.conclude id commitment) s).InPlay ↔
      ¬ (commitment.target.isTruthy = true ∧ Splits commitment.target commitment.before s) := by
  unfold Turn.conclude
  dsimp only
  split
  · rename_i leads
    rw [and_iff_right leads, ← inPlay_follow_iff stance same, after, after]
    rcases followed : outcome (Turn.follow commitment.target commitment.before) s with ⟨r, t⟩
    cases r with
    | ok entered =>
      rw [outcome_bind_of_ok followed]
      exact ⟨inPlay_of_stance_eq rfl, inPlay_of_stance_eq rfl⟩
    | error fault => rw [outcome_bind_of_error followed]
  · rename_i ends
    have running := (stance_eq_iff.1 stance).1
    refine iff_of_true ?_ fun tears => ends tears.1
    rw [after, outcome_bind_of_ok (Turn.outcome_publish _ _)]
    rcases ended : outcome Turn.endGame (s.announce (.choiceMade id
      commitment.before.currentSceneId commitment.choice.text)) with ⟨r, t⟩
    obtain ⟨status, -⟩ := Turn.endGame_ends (by
      rw [show (s.announce _).engine.status = s.engine.status from rfl, running]
      decide) ended
    have finished : t.InPlay := inPlay_of_status (by rw [status]; decide) (by rw [status]; decide)
    cases r with
    | ok _ =>
      rw [outcome_bind_of_ok ended]
      exact finished
    | error fault =>
      rw [outcome_bind_of_error ended]
      exact finished

theorem inPlay_choose_iff (inPlay : s.InPlay) (id : Document) :
    (s.step (.choose id)).InPlay ↔ ¬ Tears s (.choose id) := by
  have left : s.step (.choose id) = after (Turn.makeChoice id) s := Turn.after_discard _ s
  rw [left, after]
  by_cases running : s.engine.status = .running
  · rw [Turn.makeChoice_of_running running]
    have reported : ∀ turn : Turn ChoiceOutcome,
        (outcome (Turn.reporting "make_choice" turn) s).2.InPlay ↔ (after turn s).InPlay := by
      intro turn
      rcases ended : outcome turn s with ⟨r, t⟩
      cases r with
      | ok value => rw [Turn.outcome_reporting_of_ok ended, after, ended]
      | error fault => rw [Turn.outcome_reporting_of_error ended, inPlay_blame_iff, after, ended]
    rw [reported]
    rcases committed : outcome (Turn.commit id) s with ⟨r, s₁⟩
    obtain ⟨kept, isBefore⟩ := Turn.commit_ends committed
    have stance : s₁.stance = s.stance := Turn.stance_of_footing (congrArg Prod.fst kept)
    cases r with
    | error fault =>
      rw [after, outcome_bind_of_error committed]
      refine iff_of_true (inPlay_of_stance_eq stance inPlay) ?_
      rintro ⟨-, commitment, s', committed', -⟩
      rw [committed] at committed'
      cases committed'
    | ok commitment =>
      rw [after, outcome_bind_of_ok committed]
      obtain ⟨state, presented, isState, isScene, same⟩ := inPlay (.inl running)
      rw [isBefore] at isState
      cases isState
      have stance' : s₁.stance = (.running, some presented, some commitment.before.place) := by
        refine stance.trans (stance_eq_iff.2 ⟨running, isScene, ?_⟩)
        rw [Engine.place, isBefore]
        rfl
      refine (inPlay_conclude_iff stance' same).trans (not_congr ?_)
      constructor
      · intro tears
        exact ⟨running, commitment, s₁, committed, tears⟩
      · rintro ⟨-, commitment', s', committed', tears⟩
        rw [committed] at committed'
        cases committed'
        exact tears
  · obtain ⟨fault, idle⟩ := Turn.makeChoice_of_idle running id
    rw [idle, inPlay_blame_iff]
    exact iff_of_true inPlay fun tears => running tears.1

theorem inPlay_step_iff (inPlay : s.InPlay) (operation : Operation) :
    (s.step operation).InPlay ↔ ¬ Tears s operation := by
  have aside : operation.isAside = true → (s.step operation).InPlay := fun aside =>
    inPlay_of_stance_eq ((Operation.keepsStance_of_isAside aside).keeps s) inPlay
  cases operation with
  | begin opening => exact inPlay_begin_iff inPlay opening
  | navigate scene => exact inPlay_navigate_iff inPlay scene
  | choose choice => exact inPlay_choose_iff inPlay choice
  | wake => exact iff_of_true (inPlay_wake inPlay) not_false
  | pause => exact iff_of_true (inPlay_pause inPlay) not_false
  | resume => exact iff_of_true (inPlay_resume inPlay) not_false
  | shutdown => exact iff_of_true (inPlay_shutdown s) not_false
  | useItem _ | interact _ _ | updateSettings _ | applyBundle _ | autosave | manualSave _
  | listSlots | pass _ | outside _ => exact iff_of_true (aside rfl) not_false

/-! ## Whole runs -/

theorem inPlay_run_iff (inPlay : s.InPlay) (operations : List Operation) :
    (∀ earlier, earlier <+: operations → (s.run earlier).InPlay) ↔
      ∀ earlier operation, earlier ++ [operation] <+: operations →
        ¬ Tears (s.run earlier) operation := by
  constructor
  · intro whole earlier operation among
    have before : (s.run earlier).InPlay :=
      whole earlier ((List.prefix_append earlier [operation]).trans among)
    rw [← inPlay_step_iff before, ← run_append]
    exact whole _ among
  · intro untorn earlier among
    -- On the operations, for every sitting in play: what is left after the first is in play again.
    induction operations generalizing s earlier with
    | nil =>
      rw [List.prefix_nil.1 among]
      exact inPlay
    | cons operation operations ih =>
      rcases List.prefix_cons_iff.1 among with rfl | ⟨rest, rfl, among'⟩
      · exact inPlay
      · have step : (s.step operation).InPlay :=
          (inPlay_step_iff inPlay operation).2 (untorn [] operation (by simp))
        refine ih step (fun earlier' operation' among'' => ?_) rest among'
        exact untorn (operation :: earlier') operation'
          (List.cons_prefix_cons.2 ⟨rfl, among''⟩)

end Sitting

/-- Whatever is done with a fresh engine, its game is in play at every moment exactly if nothing that
was done tears it. -/
theorem inPlay_along_run_iff (world : World) (content : Repository) (config : EngineConfig)
    (audio : AudioSink) (operations : List Operation) :
    (∀ earlier, earlier <+: operations →
      ((Sitting.fresh world content config audio).run earlier).InPlay) ↔
      ∀ earlier operation, earlier ++ [operation] <+: operations →
        ¬ Tears ((Sitting.fresh world content config audio).run earlier) operation := by
  have fresh : (Sitting.fresh world content config audio).InPlay :=
    Sitting.inPlay_of_status (by simp [Sitting.fresh]) (by simp [Sitting.fresh])
  exact Sitting.inPlay_run_iff fresh operations

/-- To open a story over another one, when its first scene is locked, leaves a game that runs and is
not shown, in which a choice fails for want of a scene. -/
theorem torn_by_locked_story :
    let s := Harbour.onPier.step (.begin (.newGame "cruise" "Ada"))
    s.engine.status = .running ∧ s.engine.scene = none ∧ ¬ s.InPlay ∧
      fault? (Turn.makeChoice "dare") s = some (.noField "NoneType" "choices") := by
  have running : (Harbour.onPier.step (.begin (.newGame "cruise" "Ada"))).engine.status =
      .running := by
    decide +kernel
  have hidden : (Harbour.onPier.step (.begin (.newGame "cruise" "Ada"))).engine.scene = none := by
    decide +kernel
  refine ⟨running, hidden, ?_, by decide +kernel⟩
  rw [Sitting.inPlay_iff_of_not_shown hidden]
  exact not_not_intro (.inl running)

end InteractiveFiction
