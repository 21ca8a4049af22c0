import InteractiveFiction.Proofs.Engine.Shown
import InteractiveFiction.Proofs.Story.Ways

/-!
Choices lead to scenes that are there.

A choice goes where its author lets it lead (`leads_of_commit`), and it fails for want of a scene
only if it leads to one that its story has not (`leads_to_missing`).  What is offered is of the
story that is played, so in a library of stories that were checked no choice ever fails for want of a
scene (`offered_choices_lead_to_scenes`).
-/

set_option autoImplicit false

namespace InteractiveFiction

open Course

/-! ## Faults that tell of no missing scene -/

/-- A fault that is not for want of a scene. -/
def Fault.MissesNothing (fault : Fault) : Prop :=
  ∀ scene, fault ≠ .sceneNotFound scene

theorem Fault.IsMild.missesNothing {fault : Fault} (h : fault.IsMild) : fault.MissesNothing := by
  rintro scene rfl
  cases h

theorem Document.toFloat_mild (d : Document) : Result.Mild d.toFloat := by
  unfold toFloat
  split
  · split
    · exact .pure _
    · exact .throw rfl
  · split
    · exact (Number.toFloat?_slips _).weaken fun _ accident => accident.isMild
    · exact .throw rfl

namespace Choice

variable (now : Instant) (state : GameState)

theorem unmetRequirements_mild (requirements : List Requirement) :
    Result.Mild (unmetRequirements now state requirements) := by
  induction requirements with
  | nil => exact .pure []
  | cons requirement requirements ih =>
    have stands : Result.Mild requirement.toCondition := by
      unfold Requirement.toCondition
      split
      · exact .pure _
      · exact .throw rfl
    unfold unmetRequirements
    refine .bind stands fun condition => .bind (Condition.evaluate_mild _ _ _) fun met => ?_
    exact .bind ih fun rest => .pure _

theorem lateness_mild (choice : Choice) (startedAt : Document) :
    Result.Mild (choice.lateness now startedAt) := by
  unfold lateness
  split
  · exact .pure _
  · refine .bind (Document.toFloat_mild _) fun limit => ?_
    exact .bind (Document.toFloat_mild _) fun start => .pure _

theorem refusal_mild (choice : Choice) (startedAt : Document) :
    Result.Mild (choice.refusal now state startedAt) := by
  have byType : Result.Mild (choice.refusalByType now state startedAt) := by
    unfold refusalByType
    split
    · exact .pure none
    · refine .bind (Condition.evaluate_mild _ _ _) fun holds => ?_
      split
      · exact .pure none
      · exact .pure _
    · exact .bind (lateness_mild now choice startedAt) fun error => .pure _
  unfold refusal
  refine .bind (Condition.evaluate_mild _ _ _) fun holds => ?_
  split
  · exact .pure _
  · split
    · exact .pure _
    · refine .bind (unmetRequirements_mild now state _) fun unmet => ?_
      dsimp only
      split
      · have joins : Result.Mild (Document.joined "; " (unmet.map Requirement.describe)) :=
          (Document.joined_slips _ _).weaken fun _ accident => accident.isMild
        exact .bind joins fun _ => .pure _
      · exact byType

theorem judge_mild (choice : Choice) (startedAt : Document) :
    Result.Mild (choice.judge now state startedAt) := by
  refine .bind (refusal_mild now state choice startedAt) fun refusal => ?_
  cases refusal <;> exact .pure _

theorem effects_of_judge {now : Instant} {state : GameState} {choice : Choice}
    {startedAt : Document} {result : ChoiceResult}
    (judged : choice.judge now state startedAt = .ok result) (success : result.success = true) :
    result.effects = choice.effects := by
  obtain ⟨refusal, -, decided⟩ := Result.ok_of_bind judged
  cases refusal with
  | some refusal =>
    cases decided
    cases success
  | none =>
    cases decided
    rfl

end Choice

/-! ## Offered choices -/

namespace Sitting

/-- A choice that is offered in the scene that is shown. -/
def Proposes (s : Sitting) (choice : Choice) : Prop :=
  ∃ presented, s.engine.scene = some presented ∧
    ∃ offered ∈ presented.choices, offered.choice = choice

/-- The choice that is offered under an id. -/
def HoldsOut (s : Sitting) (id : Document) (choice : Choice) : Prop :=
  ∃ presented, s.engine.scene = some presented ∧ presented.choice? id = some choice

theorem HoldsOut.proposes {s : Sitting} {id : Document} {choice : Choice} (h : s.HoldsOut id choice) :
    s.Proposes choice := by
  obtain ⟨presented, shown, found⟩ := h
  obtain ⟨offered, among, isChoice⟩ := Option.map_eq_some_iff.1 found
  exact ⟨presented, shown, offered, List.mem_of_find?_eq_some among, isChoice⟩

/-- What is offered is of the story that is played. -/
theorem HoldsOut.authored {s : Sitting} {id : Document} {choice : Choice} (h : s.HoldsOut id choice)
    (drawn : Drawn s.engine.content s.scenery) :
    ∃ story, Plays story s.scenery ∧ choice ∈ story.choices ∧ (choice.id == id) = true := by
  obtain ⟨presented, shown, found⟩ := h
  obtain ⟨story, plays, isOf⟩ := drawn.shown presented shown
  obtain ⟨offered, among, rfl⟩ := Option.map_eq_some_iff.1 found
  have byId := List.find?_some among
  exact ⟨story, plays, isOf.choices offered (List.mem_of_find?_eq_some among), byId⟩

end Sitting

namespace Turn

theorem accept_missesNothing (id : Document) :
    Confined (fun s => s) Fault.MissesNothing (accept id) := by
  refine .bind confined_engine fun engine => ?_
  split
  · exact .throw nofun
  · split
    · exact .bind (confined_lift (Document.checkKey_failsIn fun _ => nofun)) fun _ => .throw nofun
    · rename_i choice _
      have judges : ∀ now state startedAt,
          Result.FailsIn Fault.MissesNothing (choice.judge now state startedAt) :=
        fun now state startedAt =>
          (choice.judge_mild now state startedAt).weaken fun _ mild => mild.missesNothing
      refine .bind confined_now fun now => .bind (confined_state nofun) fun state => ?_
      exact .bind (confined_lift (judges _ _ _)) fun result => .branch (.pure _) (.throw nofun)

theorem holdsOut_of_accept {id : Document} {s t : Sitting} {choice : Choice} {result : ChoiceResult}
    (accepted : outcome (accept id) s = (.ok (choice, result), t)) :
    s.HoldsOut id choice ∧ result.effects = choice.effects := by
  obtain ⟨engine, s₁, isEngine, looked⟩ := ok_of_outcome_bind accepted
  cases isEngine
  cases isScene : s.engine.scene with
  | none =>
    rw [isScene] at looked
    cases looked
  | some presented =>
    rw [isScene] at looked
    dsimp only at looked
    cases found : presented.choice? id with
    | none =>
      rw [found] at looked
      obtain ⟨_, _, -, refused⟩ := ok_of_outcome_bind looked
      cases refused
    | some known =>
      rw [found] at looked
      dsimp only at looked
      obtain ⟨now, s₂, -, afterNow⟩ := ok_of_outcome_bind looked
      obtain ⟨state, s₃, -, afterState⟩ := ok_of_outcome_bind afterNow
      obtain ⟨decision, s₄, judged, decided⟩ := ok_of_outcome_bind afterState
      rw [outcome_lift] at judged
      split at decided
      · rename_i success
        cases decided
        refine ⟨⟨presented, isScene, found⟩, ?_⟩
        exact Choice.effects_of_judge (Prod.mk.inj judged).1 success
      · cases decided

theorem accepted_of_weigh {id : Document} {s t : Sitting} {choice : Choice} {result : ChoiceResult}
    {before : GameState} (weighed : outcome (weigh id) s = (.ok (choice, result, before), t)) :
    ∃ s₁, outcome (accept id) s = (.ok (choice, result), s₁) := by
  obtain ⟨⟨choice', result'⟩, s₁, accepted, afterAccept⟩ := ok_of_outcome_bind weighed
  obtain ⟨state, s₂, -, afterState⟩ := ok_of_outcome_bind afterAccept
  refine ⟨s₁, ?_⟩
  split at afterState
  · obtain ⟨engine, s₃, -, afterEngine⟩ := ok_of_outcome_bind afterState
    obtain ⟨scene, s₄, -, gives⟩ := ok_of_outcome_bind afterEngine
    cases gives
    exact accepted
  · cases afterState
    exact accepted

theorem ok_of_onStage {α : Type} {action : Action α} {s t : Sitting} {a : α}
    (ends : outcome (onStage action) s = (.ok a, t)) :
    ∃ stage, result action stage = .ok a := by
  cases isState : s.engine.state with
  | none =>
    rw [outcome_onStage_of_none isState] at ends
    cases ends
  | some state =>
    rw [outcome_onStage_of_some isState] at ends
    exact ⟨s.stage state, (Prod.mk.inj ends).1⟩

theorem holdsOut_of_commit {id : Document} {s t : Sitting} {commitment : Commitment}
    (committed : outcome (commit id) s = (.ok commitment, t)) : s.HoldsOut id commitment.choice := by
  obtain ⟨⟨choice, result, before⟩, s₁, weighed, afterWeigh⟩ := ok_of_outcome_bind committed
  obtain ⟨s₂, accepted⟩ := accepted_of_weigh weighed
  obtain ⟨effects, s₃, -, afterEffects⟩ := ok_of_outcome_bind afterWeigh
  obtain ⟨_, s₄, -, gives⟩ := ok_of_outcome_bind afterEffects
  cases gives
  exact (holdsOut_of_accept accepted).1

/-- What is committed was offered, and leads where its author lets it lead. -/
theorem leads_of_commit {id : Document} {s t : Sitting} {commitment : Commitment}
    (committed : outcome (commit id) s = (.ok commitment, t)) :
    s.Proposes commitment.choice ∧ commitment.choice.LeadsTo commitment.target := by
  refine ⟨(holdsOut_of_commit committed).proposes, ?_⟩
  obtain ⟨⟨choice, result, before⟩, s₁, weighed, afterWeigh⟩ := ok_of_outcome_bind committed
  obtain ⟨s₂, accepted⟩ := accepted_of_weigh weighed
  obtain ⟨effects, s₃, applied, afterEffects⟩ := ok_of_outcome_bind afterWeigh
  obtain ⟨_, s₄, -, gives⟩ := ok_of_outcome_bind afterEffects
  obtain ⟨stage, processed⟩ := ok_of_onStage applied
  cases gives
  unfold Commitment.target
  cases sent : Outcome.teleportTarget effects with
  | none => exact .inl rfl
  | some target =>
    rw [(holdsOut_of_accept accepted).2] at processed
    exact .inr (Effect.teleports_of_process processed sent).2

/-! ## Missing scenes -/

/-- Where a scene is missing that is looked for, the story has no scene of that id. -/
theorem missing_of_findScene {id missing : Document} {mode : EntryMode} {s t : Sitting}
    (ends : outcome (findScene id mode) s = (.error (.sceneNotFound missing), t)) :
    ∃ state, s.engine.state = some state ∧
      s.engine.content.scene state.storyId id = .error (.sceneNotFound missing) := by
  rcases error_of_outcome_bind ends with noState | ⟨state, s₁, isState, afterState⟩
  · rw [outcome_state] at noState
    split at noState <;> cases noState
  obtain ⟨rfl, isGame⟩ := some_of_outcome_state isState
  rw [outcome_bind_of_ok (outcome_engine s₁)] at afterState
  cases found : s₁.engine.content.scene state.storyId id with
  | error fault =>
    rw [outcome_bind_of_error (by rw [outcome_lift, found])] at afterState
    cases afterState
    exact ⟨state, isGame, found⟩
  | ok scene =>
    rw [outcome_bind_of_ok (by rw [outcome_lift, found])] at afterState
    have checked : Confined (fun s => s) Fault.MissesNothing (do
        if mode.checkAccess then
          if !(← scene.isAccessible (← now) state) then throw (.sceneInaccessible id)
        pure scene : Turn Scene) := by
      have accessible : ∀ now,
          Result.FailsIn Fault.MissesNothing (scene.isAccessible now state) :=
        fun now => (Condition.evaluate_mild _ _ _).weaken fun _ mild => mild.missesNothing
      refine .branch (.bind confined_now fun now => ?_) (.pure scene)
      refine .bind (confined_lift (accessible now)) fun answer => ?_
      exact .branch (.bind (.throw nofun) fun _ => .pure scene) (.pure scene)
    exact absurd rfl ((checked.of_outcome afterState).2 _ rfl missing)

theorem missing_of_enterScene {id missing : Document} {mode : EntryMode} {s t : Sitting}
    (ends : outcome (enterScene id mode) s = (.error (.sceneNotFound missing), t)) :
    ∃ place, s.engine.place = some place ∧
      s.engine.content.scene place.story id = .error (.sceneNotFound missing) := by
  have entry := entryEnd_of_turnsAway rfl ends
  unfold entryEnd at entry
  rcases approached : outcome (approach id mode) s with ⟨r, s₁⟩
  rw [approached] at entry
  cases r with
  | ok scene =>
    dsimp only at entry
    split at entry
    · cases entry
    · split at entry <;> cases entry
  | error fault =>
    cases entry
    rcases error_of_outcome_bind approached with unswept | ⟨lapsed, s₂, swept, looked⟩
    · have accident := (sweep_steady.of_outcome unswept).2 _ rfl
      cases accident
    · obtain ⟨state, isState, missed⟩ := missing_of_findScene looked
      have kept := (sweep_steady.of_outcome swept).1
      have isPlace : s₂.engine.place = s.engine.place := congrArg Prod.snd kept
      have isContent : s₂.engine.content = s.engine.content :=
        congrArg (fun footing : Engine × Option Place => footing.1.content) kept
      refine ⟨state.place, ?_, ?_⟩
      · rw [← isPlace, Engine.place, isState]
        rfl
      · rw [← isContent]
        exact missed

end Turn

/-- A choice that is offered leads to a scene that the story of the game has not. -/
def Sitting.Misleads (s : Sitting) (missing : Document) : Prop :=
  ∃ choice target place, s.Proposes choice ∧ choice.LeadsTo target ∧ target.isTruthy = true ∧
    s.engine.place = some place ∧
    s.engine.content.scene place.story target = .error (.sceneNotFound missing)

namespace Turn

theorem misleads_of_weigh {id missing : Document} {s t : Sitting}
    (ends : outcome (weigh id) s = (.error (.sceneNotFound missing), t)) : s.Misleads missing := by
  rcases error_of_outcome_bind ends with refused | ⟨⟨choice, result⟩, s₁, accepted, afterAccept⟩
  · exact absurd rfl (((accept_missesNothing id).of_outcome refused).2 _ rfl missing)
  have same := (accept_reads id).after_eq s
  rw [after, accepted] at same
  dsimp only at same
  subst same
  rcases error_of_outcome_bind afterAccept with noState | ⟨state, s₂, isState, afterState⟩
  · rw [outcome_state] at noState
    split at noState <;> cases noState
  obtain ⟨rfl, isGame⟩ := some_of_outcome_state isState
  split at afterState
  · rename_i truthy
    rw [outcome_bind_of_ok (outcome_engine s₂)] at afterState
    rcases error_of_outcome_bind afterState with looked | ⟨_, _, -, gives⟩
    · rw [outcome_lift] at looked
      have isPlace : s₂.engine.place = some state.place := by
        rw [Engine.place, isGame]
        rfl
      exact ⟨choice, choice.target, state.place, (holdsOut_of_accept accepted).1.proposes, .inl rfl, truthy,
        isPlace, (Prod.mk.inj looked).1⟩
    · cases gives
  · cases afterState

theorem misleads_of_commit {id missing : Document} {s t : Sitting}
    (ends : outcome (commit id) s = (.error (.sceneNotFound missing), t)) : s.Misleads missing := by
  rcases error_of_outcome_bind ends with weighed | ⟨⟨choice, result, before⟩, s₁, -, afterWeigh⟩
  · exact misleads_of_weigh weighed
  rcases error_of_outcome_bind afterWeigh with applied | ⟨effects, s₂, -, afterEffects⟩
  · have accident := ((onStage_steady result.effects.process_inFront).of_outcome applied).2 _ rfl
    cases accident
  · have records : Steady (fun _ => False) (recordChoice id before.currentSceneId choice.text) :=
      recordChoice_steady _ _ _
    rcases error_of_outcome_bind afterEffects with unrecorded | ⟨_, _, -, gives⟩
    · exact absurd ((records.of_outcome unrecorded).2 _ rfl) not_false
    · cases gives

theorem missing_of_conclusion {id missing : Document} {commitment : Commitment} {s t : Sitting}
    (inGame : s.engine.status ≠ .ended)
    (conclusion : Conclusion id commitment s (.error (.sceneNotFound missing)) t) :
    commitment.target.isTruthy = true ∧ ∃ place, s.engine.place = some place ∧
      s.engine.content.scene place.story commitment.target = .error (.sceneNotFound missing) := by
  cases conclusion with
  | unfollowed truthy unentered => exact ⟨truthy, missing_of_enterScene unentered⟩
  | unended unclosed =>
    have inGame' : (s.announce (commitment.announcement id)).engine.status ≠ .ended := inGame
    have mild := (endGame_ends inGame' unclosed).2 _ rfl
    cases mild

/-- A choice fails for want of a scene only if one that is offered leads to a scene that is not
there. -/
theorem leads_to_missing {id missing : Document} {s : Sitting}
    (missed : fault? (makeChoice id) s = some (.sceneNotFound missing)) : s.Misleads missing := by
  obtain ⟨t, unmade, -⟩ := unmade_of_makeChoice (outcome_of_fault? missed)
  cases unmade with
  | uncommitted running uncommitted => exact misleads_of_commit uncommitted
  | @unconcluded commitment s' _ _ running committed conclusion =>
    have kept : s'.footing = s.footing := congrArg Prod.fst (commit_ends committed).1
    have isContent : s'.engine.content = s.engine.content :=
      congrArg (fun footing : Engine × Option Place => footing.1.content) kept
    have isPlace : s'.engine.place = s.engine.place := congrArg Prod.snd kept
    have inGame := inGame_of_commit running committed
    obtain ⟨proposed, leads⟩ := leads_of_commit committed
    obtain ⟨truthy, place, placed, missing⟩ := missing_of_conclusion inGame conclusion
    rw [isPlace] at placed
    rw [isContent] at missing
    exact ⟨commitment.choice, commitment.target, place, proposed, leads, truthy, placed, missing⟩

end Turn

/-! ## Libraries of accepted stories -/

namespace Sitting

variable {content : Repository} {s : Sitting}

theorem drawn_fresh (world : World) (content : Repository) (config : EngineConfig)
    (audio : AudioSink) : Drawn content (fresh world content config audio).scenery :=
  .of_not_shown rfl rfl

/-- What is shown is of an accepted story, if all stories are accepted. -/
theorem accepted_of_drawn (accepted : content.Accepted) (drawn : Drawn content s.scenery)
    {presented : PresentedScene} (shown : s.engine.scene = some presented) :
    ∃ state story check, s.engine.state = some state ∧
      content.story state.storyId = .ok story ∧ story.ensureValid = .ok check ∧
      presented.IsOf story := by
  obtain ⟨story, ⟨place, isPlace, isStory⟩, isOf⟩ := drawn.shown presented shown
  obtain ⟨state, isState, rfl⟩ := Engine.state_of_place isPlace
  rw [drawn.content] at isStory
  obtain ⟨check, passed⟩ := accepted.story isStory
  exact ⟨state, story, check, isState, isStory, passed, isOf⟩

theorem never_misleads (accepted : content.Accepted) (drawn : Drawn content s.scenery)
    (missing : Document) : ¬ s.Misleads missing := by
  rintro ⟨choice, target, place, ⟨presented, shown, offered, among, rfl⟩, leads, truthy, isPlace,
    missed⟩
  obtain ⟨state, story, check, isState, isStory, passed, isOf⟩ :=
    accepted_of_drawn accepted drawn shown
  have same : state.place = place := by
    rw [Engine.place, isState] at isPlace
    exact Option.some.inj isPlace
  have known := Story.hasScene_of_leadsTo passed (isOf.choices offered among) leads truthy
  obtain ⟨scene, found⟩ := Option.isSome_iff_exists.1 known
  have isContent : s.engine.content = content := drawn.content
  have isStory' : content.story state.place.story = .ok story := isStory
  rw [isContent, ← same, Repository.scene, Result.bind_of_ok isStory',
    Repository.find_of_record found] at missed
  cases missed

end Sitting

/-- In a library of stories that were checked when they were added, whatever was done with an
engine, no choice fails for want of a scene: every target of a choice that is offered, and every teleport in
its effects, names a scene of the story that is played. -/
theorem offered_choices_lead_to_scenes {stories : List Story} {content : Repository}
    (checked : Repository.ofStories stories true = .ok content) (world : World)
    (config : EngineConfig) (audio : AudioSink) (operations : List Operation) :
    let s := (Sitting.fresh world content config audio).run operations
    (∀ choice missing, fault? (Turn.makeChoice choice) s ≠ some (.sceneNotFound missing)) ∧
    ∀ presented, s.engine.scene = some presented →
      ∃ state story, s.engine.state = some state ∧ content.story state.storyId = .ok story ∧
        ∀ offered ∈ presented.choices,
          (offered.choice.target.isTruthy = true →
            story.hasScene offered.choice.target = true) ∧
          ∀ custom ∈ offered.choice.effects.custom, custom.type = "teleport" →
            story.hasScene (custom.param "targetScene") = true := by
  intro s
  have accepted := Repository.accepted_of_ofStories checked
  have drawn : Drawn content s.scenery := Sitting.drawn_run (Sitting.drawn_fresh _ _ _ _) operations
  refine ⟨fun choice missing missed => ?_, fun presented shown => ?_⟩
  · exact Sitting.never_misleads accepted drawn missing (Turn.leads_to_missing missed)
  · obtain ⟨state, story, check, isState, isStory, passed, isOf⟩ :=
      Sitting.accepted_of_drawn accepted drawn shown
    refine ⟨state, story, isState, isStory, fun offered among => ⟨fun truthy => ?_, ?_⟩⟩
    · exact Story.hasScene_of_target passed (isOf.choices offered among) truthy
    · intro custom mem type
      have teleports : offered.choice.effects.Teleports (custom.param "targetScene") :=
        ⟨custom, mem, type, rfl⟩
      exact (Story.hasScene_of_teleports passed (isOf.choices offered among) teleports).2

namespace Harbour

def surveyed : Repository :=
  { volumes := [⟨ferry, some ferry.check⟩, ⟨cruise, some cruise.check⟩] }

theorem ferry_accepted : ferry.ensureValid = .ok ferry.check :=
  Story.ensureValid_of_valid (by decide +kernel) (by decide +kernel)

theorem cruise_accepted : cruise.ensureValid = .ok cruise.check :=
  Story.ensureValid_of_valid (by decide +kernel) (by decide +kernel)

theorem surveyed_of_stories : Repository.ofStories [ferry, cruise] true = .ok surveyed := by
  have first : ({} : Repository).add ferry true = .ok ⟨[⟨ferry, some ferry.check⟩]⟩ := by
    rw [Repository.add, if_pos rfl, ferry_accepted]
    rfl
  have second :
      (⟨[⟨ferry, some ferry.check⟩]⟩ : Repository).add cruise true = .ok surveyed := by
    rw [Repository.add, if_pos rfl, cruise_accepted]
    rfl
  rw [Repository.ofStories, List.foldlM_cons, Result.bind_of_ok first, List.foldlM_cons,
    Result.bind_of_ok second]
  rfl

/-- The pier after a dare, with the way on board offered. -/
def dared : Sitting :=
  (Sitting.fresh { now := 1000000.0 } surveyed {} {}).run
    [.wake, .begin (.newGame "ferry" "Ada"), .choose "dare"]

end Harbour

open Harbour in
theorem board_leads_to_deck :
    Repository.ofStories [ferry, cruise] true = .ok surveyed ∧
      (∀ missing, fault? (Turn.makeChoice "board") dared ≠ some (.sceneNotFound missing)) ∧
      ∃ presented, dared.engine.scene = some presented ∧
        presented.choices.map PresentedChoice.choice = [board, dare] ∧
        ferry.hasScene "pier" = true ∧ ferry.hasScene "deck" = true := by
  have offered : dared.engine.scene.map (fun presented =>
      presented.choices.map PresentedChoice.choice) = some [board, dare] := by
    decide +kernel
  have playing : dared.engine.state.map GameState.storyId = some "ferry" := by
    decide +kernel
  obtain ⟨presented, shown, isOffered⟩ := Option.map_eq_some_iff.1 offered
  obtain ⟨current, isCurrent, isFerry⟩ := Option.map_eq_some_iff.1 playing
  unfold dared at shown isCurrent ⊢
  obtain ⟨never, leads⟩ := offered_choices_lead_to_scenes surveyed_of_stories
    { now := 1000000.0 } {} {} [.wake, .begin (.newGame "ferry" "Ada"), .choose "dare"]
  obtain ⟨state, story, isState, isStory, known⟩ := leads presented shown
  obtain rfl := Option.some.inj (isCurrent.symm.trans isState)
  rw [isFerry] at isStory
  obtain rfl := Except.ok.inj isStory
  have mem : board ∈ presented.choices.map PresentedChoice.choice := by simp [isOffered]
  obtain ⟨one, among, isBoard⟩ := List.mem_map.1 mem
  obtain ⟨target, teleports⟩ := known one among
  rw [isBoard] at target teleports
  refine ⟨surveyed_of_stories, never "board", presented, shown, isOffered, target rfl, ?_⟩
  exact teleports ⟨"teleport", [("targetScene", "deck")]⟩ (List.mem_cons_self ..) rfl

end InteractiveFiction
