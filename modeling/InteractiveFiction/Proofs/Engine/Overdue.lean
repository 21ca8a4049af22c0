import InteractiveFiction.Proofs.Engine.Achievements
import InteractiveFiction.Proofs.Engine.Run

/-!
Achievements that are overdue: they are earned by what a call has left, and still locked.

* `Sitting.Checked`: since achievements were last checked, nothing has changed that they depend on.
  A call that starts or loads a game, follows a choice or goes to a scene ends so
  (`checked_of_advance`).
* The check asks for each achievement once.  One that it left locked is overdue only if achievements
  behind it were unlocked by the same check and its condition asks for one of them
  (`overdue_after_advance`).
-/

set_option autoImplicit false

namespace InteractiveFiction

open Course

namespace Sitting

/-- The clock, the stories there are, and all that conditions ask of the game. -/
def basis (s : Sitting) : Instant × Repository × Option GameState :=
  (s.world.now, s.engine.content, s.engine.state.map GameState.gist)

def Checked (s : Sitting) : Prop :=
  ∃ t u, outcome Turn.checkAchievements t = (.ok (), u) ∧ s.basis = u.basis

theorem Checked.of_basis {s t : Sitting} (h : s.Checked) (same : t.basis = s.basis) : t.Checked := by
  obtain ⟨u, v, checked, kept⟩ := h
  exact ⟨u, v, checked, same.trans kept⟩

theorem basis_begun (s : Sitting) : s.begun.basis = s.basis := by
  have untimed := Engine.untimed_startTimers { s.engine with status := .running } s.world.elapsed
  exact (congrArg (fun engine : Engine => Sitting.basis { s with engine }) untimed :)

end Sitting

namespace Turn

/-! ## Nothing changes after the check -/

abbrev KeepsBasis {α : Type} (turn : Turn α) : Prop :=
  Confined Sitting.basis AnyFault turn

theorem publish_keepsBasis (event : Event) : KeepsBasis (publish event) :=
  .bind confined_now fun _ => .modify fun _ => rfl

theorem modifyState_keepsBasis {change : GameState → GameState}
    (h : ∀ state, (change state).gist = state.gist) : KeepsBasis (modifyState change) :=
  .modify fun s => Prod.ext rfl (Prod.ext rfl (map_modified h s.engine.state))

theorem save_keepsBasis (name : Document) (autosave : Bool) : KeepsBasis (save name autosave) := by
  refine .bind (confined_state trivial) fun _ => .bind confined_now fun now => ?_
  refine .bind (modifyState_keepsBasis fun _ => rfl) fun _ => ?_
  refine .bind (modifyState_keepsBasis fun _ => rfl) fun _ => ?_
  refine .bind confined_world fun world => .bind (confined_state trivial) fun state => ?_
  dsimp only
  refine .bind (.modify fun _ => rfl) fun _ => ?_
  split
  · exact .bind (publish_keepsBasis _) fun _ => .pure _
  · exact .bind (modifyState_keepsBasis fun _ => rfl) fun _ => .throw trivial

theorem concludeEntry_keepsBasis (id : Document) (mode : EntryMode) (scene : Scene)
    (presented : PresentedScene) : KeepsBasis (concludeEntry id mode scene presented) := by
  refine .bind (publish_keepsBasis _) fun _ => ?_
  refine .branch (.bind confined_world fun world => .bind (.modify fun s => ?_) fun _ => .pure _)
    (.pure _)
  have armed := Engine.untimed_arm { s.engine with delayed := scene.timeEffects } world.elapsed
  exact (congrArg (fun engine : Engine => Sitting.basis { s with engine }) armed :)

theorem checked_of_enterScene {id : Document} {mode : EntryMode} {s t : Sitting}
    {presented : PresentedScene} (entered : outcome (enterScene id mode) s = (.ok presented, t)) :
    t.Checked := by
  rw [enterScene_eq_check] at entered
  obtain ⟨entry, u, -, afterArrival⟩ := ok_of_outcome_bind entered
  obtain ⟨_, v, checked, concluded⟩ := ok_of_outcome_bind afterArrival
  exact ⟨u, v, checked, ((concludeEntry_keepsBasis _ _ _ _).of_outcome concluded).1⟩

theorem checked_of_endGame {s t : Sitting} (inGame : s.engine.status ≠ .ended)
    (ended : outcome endGame s = (.ok (), t)) : t.Checked := by
  unfold endGame at ended
  rw [outcome_bind_of_ok (outcome_engine s), if_pos inGame] at ended
  rw [outcome_bind_of_ok (outcome_modifyEngine _ _)] at ended
  obtain ⟨_, s₁, checked, rest⟩ := ok_of_outcome_bind ended
  have saves : KeepsBasis (do
      tryCatch
        (do
          let _ ← save finalSaveName false)
        fun fault => report "end_game" fault
      play .stopAll
      announceEnd) := by
    refine .bind (.tryCatch (.bind (save_keepsBasis _ _) fun _ => .pure ()) fun fault _ => ?_)
      fun _ => ?_
    · exact publish_keepsBasis _
    · refine .bind (.modify fun _ => rfl) fun _ => .bind (confined_state trivial) fun state => ?_
      exact .bind (confined_lift (Result.anyFault _)) fun _ => publish_keepsBasis _
  exact ⟨_, s₁, checked, (saves.of_outcome rest).1⟩

theorem checked_of_makeChoice {id : Document} {s t : Sitting} {made : ChoiceOutcome}
    (chosen : outcome (makeChoice id) s = (.ok made, t)) : t.Checked := by
  obtain ⟨running, commitment, s₁, committed, conclusion⟩ := conclusion_of_makeChoice chosen
  cases conclusion with
  | led truthy entered => exact (checked_of_enterScene entered).of_basis rfl
  | ended closed =>
    have inGame := inGame_of_commit running committed
    have inGame' : (s₁.announce (commitment.announcement id)).engine.status ≠ .ended := inGame
    exact checked_of_endGame inGame' closed

theorem checked_of_navigate {id : Document} {s t : Sitting} {presented : PresentedScene}
    (navigated : outcome (navigate id) s = (.ok presented, t)) : t.Checked := by
  by_cases running : s.engine.status = .running
  · rw [navigate_of_running running] at navigated
    exact checked_of_enterScene (ok_of_reporting navigated)
  · obtain ⟨fault, idle⟩ := navigate_of_idle running id
    rw [idle] at navigated
    cases navigated

end Turn

theorem Opening.checked_of_turn {opening : Opening} {s t : Sitting} {presented : PresentedScene}
    (opened : outcome opening.turn s = (.ok presented, t)) : t.Checked := by
  obtain ⟨state, s₁, s₂, game, -, entered, rfl⟩ := Opening.entered_of_turn opened
  exact (Turn.checked_of_enterScene entered).of_basis s₂.basis_begun

/-- The operations that take a player to a scene, or to the end of the story. -/
def Operation.advances : Operation → Bool
  | .begin _ | .choose _ | .navigate _ => true
  | _ => false

theorem Operation.checked_of_advance {operation : Operation} (advances : operation.advances = true)
    {s : Sitting} (returned : fault? operation.turn s = none) : (s.step operation).Checked := by
  obtain ⟨_, ends⟩ := ok_of_no_fault returned
  cases operation with
  | begin opening =>
    obtain ⟨presented, t, opened, gives⟩ := ok_of_outcome_bind ends
    cases gives
    exact Opening.checked_of_turn opened
  | choose id =>
    obtain ⟨made, t, chosen, gives⟩ := ok_of_outcome_bind ends
    cases gives
    exact Turn.checked_of_makeChoice chosen
  | navigate id =>
    obtain ⟨presented, t, navigated, gives⟩ := ok_of_outcome_bind ends
    cases gives
    exact Turn.checked_of_navigate navigated
  | _ => cases advances

/-! ## Overdue achievements -/

/-- An achievement is locked though it is earned by now. -/
def Sitting.Overdue (s : Sitting) (achievement : Achievement) : Prop :=
  ∃ state, s.engine.state = some state ∧ state.Lacks achievement.id ∧
    Condition.evaluate (Timestamp.hour s.world.now) state achievement.conditions = .ok true

namespace Achievement

/-- What was unlocked last is of certain achievements, which the condition of another asks for, and
without which it does not hold. -/
def Outrun (hour : Nat) (state : GameState) (others : List Achievement) (achievement : Achievement) :
    Prop :=
  ∃ earlier later, state.progress.achievementsUnlocked = earlier ++ later ∧
    (∀ id ∈ later, ∃ other ∈ others, other.id = id) ∧
    Condition.evaluate hour (state.withAchievements earlier) achievement.conditions = .ok false ∧
    ∃ id ∈ later, Condition.AsksFor achievement.conditions id

/-- No condition asks for an achievement that comes later in the list. -/
def InOrder (achievements : List Achievement) : Prop :=
  achievements.Pairwise fun achievement later =>
    ¬Condition.AsksFor achievement.conditions later.id

end Achievement

namespace Sitting

/-- The pass that left the state of a sitting that was checked. -/
theorem Checked.pass {s : Sitting} (h : s.Checked) :
    ∃ state left achievements unlocked, s.engine.state = some left ∧
      s.engine.content.achievements left.storyId = .ok achievements ∧
      Achievement.unlocks (Timestamp.hour s.world.now) state achievements = (unlocked, none) ∧
      left.gist = (state.unlocking unlocked).gist := by
  obtain ⟨t, u, checked, same⟩ := h
  obtain ⟨state, achievements, unlocked, played, isState, authored, pass, rfl⟩ :=
    Turn.pass_of_checked checked
  obtain ⟨clock, content, gists⟩ : s.world.now = t.world.now ∧ s.engine.content = t.engine.content ∧
      s.engine.state.map GameState.gist =
        (t.engine.state.map fun state => state.unlocking unlocked).map GameState.gist := by
    simpa [basis, unlocking] using same
  rw [isState] at gists
  obtain ⟨left, isLeft, gist⟩ := Option.map_eq_some_iff.1 gists
  have story : left.storyId = state.storyId := (congrArg GameState.storyId gist :)
  refine ⟨state, left, achievements, unlocked, isLeft, ?_, ?_, gist⟩
  · rw [content, story]
    exact authored
  · rw [clock]
    exact pass

theorem Checked.outrun_of_overdue {s : Sitting} (h : s.Checked) :
    ∃ state achievements, s.engine.state = some state ∧
      s.engine.content.achievements state.storyId = .ok achievements ∧
      ∀ before achievement after, achievements = before ++ achievement :: after →
        s.Overdue achievement → achievement.Outrun (Timestamp.hour s.world.now) state after := by
  obtain ⟨state, left, achievements, unlocked, isLeft, authored, pass, gist⟩ := h.pass
  refine ⟨left, achievements, isLeft, authored, ?_⟩
  rintro before achievement after rfl ⟨left', isLeft', lacks, earned⟩
  obtain rfl : left = left' := Option.some.inj (isLeft.symm.trans isLeft')
  obtain ⟨first, others, rfl, sub, refused⟩ := Achievement.unlocks_at pass (lacks.of_gist gist)
  have ids : left.progress.achievementsUnlocked =
      state.progress.achievementsUnlocked ++ first.map Achievement.id ++
        others.map Achievement.id := by
    have ids := congrArg (fun gist : GameState => gist.progress.achievementsUnlocked) gist
    simpa [GameState.gist, GameState.unlocking, GameState.withAchievements] using ids
  have refused' : Condition.evaluate (Timestamp.hour s.world.now)
      (left.withAchievements (state.progress.achievementsUnlocked ++ first.map Achievement.id))
      achievement.conditions = .ok false := by
    rw [Condition.evaluate_of_gist (GameState.gist_withAchievements gist _)]
    exact refused
  refine ⟨_, _, ids, fun id mem => ?_, refused', ?_⟩
  · obtain ⟨other, isOther, rfl⟩ := List.mem_map.1 mem
    exact ⟨other, sub.subset isOther, rfl⟩
  · -- What a condition does not ask for would have left its answer as it was.
    refine Classical.byContradiction fun none => ?_
    have unasked : ∀ id ∈ others.map Achievement.id,
        ¬Condition.AsksFor achievement.conditions id :=
      fun id mem asks => none ⟨id, mem, asks⟩
    have same := Condition.evaluate_of_unasked unasked (Timestamp.hour s.world.now) left
      (state.progress.achievementsUnlocked ++ first.map Achievement.id)
    rw [← ids, refused'] at same
    have now : left.withAchievements left.progress.achievementsUnlocked = left := rfl
    rw [now, earned] at same
    cases same

end Sitting

/-- After a call that returns, an achievement is overdue only if others behind it in the list, which
its condition asks for, were unlocked after it was passed over; so none is where conditions ask only
for achievements that come before. -/
theorem overdue_after_advance {operation : Operation} (advances : operation.advances = true)
    {s : Sitting} (returned : fault? operation.turn s = none) :
    let t := s.step operation
    ∃ state achievements, t.engine.state = some state ∧
      t.engine.content.achievements state.storyId = .ok achievements ∧
      (∀ before achievement after, achievements = before ++ achievement :: after →
        t.Overdue achievement → achievement.Outrun (Timestamp.hour t.world.now) state after) ∧
      (Achievement.InOrder achievements → ∀ achievement ∈ achievements, ¬t.Overdue achievement) := by
  obtain ⟨state, achievements, isState, authored, outrun⟩ :=
    (Operation.checked_of_advance advances returned).outrun_of_overdue
  refine ⟨state, achievements, isState, authored, outrun, fun inOrder achievement mem overdue => ?_⟩
  obtain ⟨before, after, rfl⟩ := List.append_of_mem mem
  obtain ⟨-, later, -, behind, -, id, unlocked, asks⟩ := outrun before achievement after rfl overdue
  obtain ⟨other, isOther, rfl⟩ := behind id unlocked
  have own := (List.pairwise_append.1 inOrder).2.1
  exact List.rel_of_pairwise_cons own isOther asks

/-! ## A cabinet of trophies -/

namespace Cabinet

def hall : Scene where
  id := "hall"
  title := "Hall"
  content := "A cabinet."

def sorted : Story where
  id := "sorted"
  title := "The cabinet"
  startingSceneId := "hall"
  scenes := [hall]
  achievements := [Trophies.guest, Trophies.collector]

def mixed : Story := { sorted with id := "mixed", achievements := [Trophies.collector, Trophies.guest] }

def awake : Sitting :=
  (Sitting.fresh { now := 1000000.0 } { volumes := [⟨sorted, none⟩, ⟨mixed, none⟩] } {} {}).step .wake

def start (story : Document) : Operation :=
  .begin (.newGame story "Ada")

theorem inOrder_sorted : Achievement.InOrder sorted.achievements :=
  List.pairwise_pair.2 (Condition.not_asksFor_of_falsy rfl _)

end Cabinet

/-- A guest is a collector at once, where the trophies are in order. -/
theorem collector_not_overdue :
    (Cabinet.start "sorted").advances = true ∧
      fault? (Cabinet.start "sorted").turn Cabinet.awake = none ∧
      ∀ achievement ∈ Cabinet.sorted.achievements,
        ¬(Cabinet.awake.step (Cabinet.start "sorted")).Overdue achievement := by
  have returned : fault? (Cabinet.start "sorted").turn Cabinet.awake = none := by decide +kernel
  have story : (Cabinet.awake.step (Cabinet.start "sorted")).engine.state.map (fun state =>
      ((Cabinet.awake.step (Cabinet.start "sorted")).engine.content.achievements
        state.storyId).toOption) = some (some Cabinet.sorted.achievements) := by
    decide +kernel
  obtain ⟨state, achievements, isState, authored, -, settled⟩ := overdue_after_advance rfl returned
  rw [isState, Option.map_some, authored] at story
  cases story
  exact ⟨rfl, returned, settled Cabinet.inOrder_sorted⟩

/-- Where they are mixed, the start of the game makes a guest, and leaves the collector locked. -/
theorem collector_overdue :
    fault? (Cabinet.start "mixed").turn Cabinet.awake = none ∧
      ∃ state achievements,
        (Cabinet.awake.step (Cabinet.start "mixed")).engine.state = some state ∧
        (Cabinet.awake.step (Cabinet.start "mixed")).engine.content.achievements state.storyId =
          .ok achievements ∧
        Trophies.collector ∈ achievements ∧
        (Cabinet.awake.step (Cabinet.start "mixed")).Overdue Trophies.collector := by
  have returned : fault? (Cabinet.start "mixed").turn Cabinet.awake = none := by decide +kernel
  have unlocked : (Cabinet.awake.step (Cabinet.start "mixed")).engine.state.map (fun state =>
      (((Cabinet.awake.step (Cabinet.start "mixed")).engine.content.achievements
        state.storyId).toOption, state.progress.achievementsUnlocked)) =
        some (some Cabinet.mixed.achievements, [.text "guest"]) := by
    decide +kernel
  have earned : (Cabinet.awake.step (Cabinet.start "mixed")).engine.state.map (fun state =>
      (state.hasAchievement "collector", (Condition.evaluate
        (Timestamp.hour (Cabinet.awake.step (Cabinet.start "mixed")).world.now) state
        Trophies.collector.conditions).toOption)) = some (false, some true) := by
    decide +kernel
  obtain ⟨state, isState, both⟩ := Option.map_eq_some_iff.1 unlocked
  obtain ⟨authored, ids⟩ := Prod.mk.inj both
  rw [isState, Option.map_some, Option.some.injEq, Prod.mk.injEq] at earned
  refine ⟨returned, state, Cabinet.mixed.achievements, isState, Result.ok_of_toOption authored,
    List.mem_cons_self, state, isState, ⟨?_, earned.1⟩, Result.ok_of_toOption earned.2⟩
  rw [ids]
  decide

end InteractiveFiction
