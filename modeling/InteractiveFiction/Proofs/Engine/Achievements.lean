import InteractiveFiction.Proofs.Condition.Leaves
import InteractiveFiction.Proofs.Simulation
import InteractiveFiction.Proofs.Turn

/-!
The check of achievements as one pass over a list.

* `Achievement.unlocks`: which achievements a pass unlocks, each asked in the state that those before
  it left, and the fault that ends it when a condition cannot be evaluated.
* `Achievement.unlocks_at`: what a pass made of an achievement in the middle of the list.
* `Turn.checkAchievements_ends`: a check writes these achievements down and announces each of them,
  in their order, and does nothing else; so it goes along what its passes go along
  (`leads_checkAchievements`).
-/

set_option autoImplicit false

namespace InteractiveFiction

open Course

namespace GameState

/-- The state with more achievements unlocked. -/
def unlocking (state : GameState) (achievements : List Achievement) : GameState :=
  state.withAchievements (state.progress.achievementsUnlocked ++ achievements.map Achievement.id)

@[simp] theorem unlocking_nil (state : GameState) : state.unlocking [] = state := by
  simp [unlocking, withAchievements]

theorem unlocking_append (state : GameState) (achievements others : List Achievement) :
    (state.unlocking achievements).unlocking others =
      state.unlocking (achievements ++ others) := by
  simp [unlocking, withAchievements]

/-- No achievement is unlocked twice. -/
def UnlockedOnce (state : GameState) : Prop :=
  state.progress.achievementsUnlocked.Pairwise fun old new => new.equals old = false

/-- Neither an achievement nor one that equals it is unlocked. -/
structure Lacks (state : GameState) (id : Document) : Prop where
  absent : id ∉ state.progress.achievementsUnlocked
  locked : state.hasAchievement id = false

theorem Lacks.of_unlocking {state : GameState} {achievements : List Achievement} {id : Document}
    (h : (state.unlocking achievements).Lacks id) : state.Lacks id where
  absent mem := h.absent (List.mem_append_left _ mem)
  locked := by
    have locked : (state.progress.achievementsUnlocked ++ achievements.map Achievement.id).any
        id.equals = false := h.locked
    rw [List.any_append, Bool.or_eq_false_iff] at locked
    exact locked.1

theorem Lacks.of_gist {state other : GameState} {id : Document} (h : state.Lacks id)
    (same : state.gist = other.gist) : other.Lacks id := by
  have ids : state.progress.achievementsUnlocked = other.progress.achievementsUnlocked :=
    (congrArg (fun gist : GameState => gist.progress.achievementsUnlocked) same :)
  refine ⟨ids ▸ h.absent, ?_⟩
  rw [hasAchievement, ← ids]
  exact h.locked

end GameState

namespace Achievement

/-! ## The pass -/

/-- What a pass over achievements unlocks, and the fault that it ends with, if any. -/
def unlocks (hour : Nat) : GameState → List Achievement → List Achievement × Option Fault
  | _, [] => ([], none)
  | state, achievement :: achievements =>
    if state.hasAchievement achievement.id then unlocks hour state achievements
    else
      match Condition.evaluate hour state achievement.conditions with
      | .error fault => ([], some fault)
      | .ok false => unlocks hour state achievements
      | .ok true =>
        let rest := unlocks hour (state.unlocking [achievement]) achievements
        (achievement :: rest.1, rest.2)

section

variable {hour : Nat} {state : GameState} {achievement : Achievement}
  {achievements : List Achievement}

theorem unlocks_of_had (had : state.hasAchievement achievement.id = true) :
    unlocks hour state (achievement :: achievements) = unlocks hour state achievements := by
  rw [unlocks, if_pos had]

variable (locked : state.hasAchievement achievement.id = false)
include locked

theorem unlocks_of_error {fault : Fault}
    (answer : Condition.evaluate hour state achievement.conditions = .error fault) :
    unlocks hour state (achievement :: achievements) = ([], some fault) := by
  rw [unlocks, if_neg (by simp [locked]), answer]

theorem unlocks_of_refused
    (answer : Condition.evaluate hour state achievement.conditions = .ok false) :
    unlocks hour state (achievement :: achievements) = unlocks hour state achievements := by
  rw [unlocks, if_neg (by simp [locked]), answer]

theorem unlocks_of_earned
    (answer : Condition.evaluate hour state achievement.conditions = .ok true) :
    unlocks hour state (achievement :: achievements) =
      (achievement :: (unlocks hour (state.unlocking [achievement]) achievements).1,
        (unlocks hour (state.unlocking [achievement]) achievements).2) := by
  rw [unlocks, if_neg (by simp [locked]), answer]

end

/-- What is made of the first achievement of a list: it is left as it is, nobody can tell whether it
is earned, or it is unlocked. -/
theorem unlocks_cons (hour : Nat) (state : GameState) (achievement : Achievement)
    (achievements : List Achievement) :
    unlocks hour state (achievement :: achievements) = unlocks hour state achievements ∨
    (∃ fault, unlocks hour state (achievement :: achievements) = ([], some fault)) ∨
    state.hasAchievement achievement.id = false ∧
      unlocks hour state (achievement :: achievements) =
        (achievement :: (unlocks hour (state.unlocking [achievement]) achievements).1,
          (unlocks hour (state.unlocking [achievement]) achievements).2) := by
  cases locked : state.hasAchievement achievement.id with
  | true => exact .inl (unlocks_of_had locked)
  | false =>
    cases answer : Condition.evaluate hour state achievement.conditions with
    | error fault => exact .inr (.inl ⟨fault, unlocks_of_error locked answer⟩)
    | ok holds =>
      cases holds with
      | false => exact .inl (unlocks_of_refused locked answer)
      | true => exact .inr (.inr ⟨rfl, unlocks_of_earned locked answer⟩)

/-- Only achievements of the list are unlocked, each at most once, in the order of the list. -/
theorem unlocks_sublist (hour : Nat) (state : GameState) (achievements : List Achievement) :
    (unlocks hour state achievements).1.Sublist achievements := by
  induction achievements generalizing state with
  | nil => exact .slnil
  | cons achievement achievements ih =>
    rcases unlocks_cons hour state achievement achievements with left | ⟨fault, failed⟩ | ⟨-, earned⟩
    · rw [left]
      exact (ih state).cons _
    · rw [failed]
      exact List.nil_sublist _
    · rw [earned]
      exact (ih _).cons_cons _

theorem unlockedOnce_unlocks {hour : Nat} {state : GameState} (h : state.UnlockedOnce)
    (achievements : List Achievement) :
    (state.unlocking (unlocks hour state achievements).1).UnlockedOnce := by
  induction achievements generalizing state with
  | nil => rwa [unlocks, GameState.unlocking_nil]
  | cons achievement achievements ih =>
    rcases unlocks_cons hour state achievement achievements with
      left | ⟨fault, failed⟩ | ⟨locked, earned⟩
    · rw [left]
      exact ih h
    · rwa [failed, GameState.unlocking_nil]
    · rw [earned]
      have fresh : (state.unlocking [achievement]).UnlockedOnce := by
        refine List.pairwise_append.2 ⟨h, List.pairwise_singleton _ _, fun old had id new => ?_⟩
        rw [List.map_singleton, List.mem_singleton] at new
        rw [new]
        exact Bool.eq_false_iff.2 (List.any_eq_false.1 locked old had)
      have further := ih fresh
      rwa [GameState.unlocking_append] at further

/-- A pass that gets through is a pass over the first achievements and then one over the others. -/
theorem unlocks_append {hour : Nat} {state : GameState} {earlier later unlocked : List Achievement}
    (passed : unlocks hour state (earlier ++ later) = (unlocked, none)) :
    ∃ first others, unlocked = first ++ others ∧ unlocks hour state earlier = (first, none) ∧
      unlocks hour (state.unlocking first) later = (others, none) := by
  induction earlier generalizing state unlocked with
  | nil => exact ⟨[], unlocked, rfl, rfl, by rwa [GameState.unlocking_nil]⟩
  | cons achievement earlier ih =>
    rw [List.cons_append] at passed
    cases locked : state.hasAchievement achievement.id with
    | true =>
      rw [unlocks_of_had locked] at passed ⊢
      exact ih passed
    | false =>
      cases answer : Condition.evaluate hour state achievement.conditions with
      | error fault =>
        rw [unlocks_of_error locked answer] at passed
        cases passed
      | ok holds =>
        cases holds with
        | false =>
          rw [unlocks_of_refused locked answer] at passed ⊢
          exact ih passed
        | true =>
          rw [unlocks_of_earned locked answer] at passed ⊢
          obtain ⟨rfl, through⟩ := Prod.mk.inj passed
          obtain ⟨first, others, both, before, behind⟩ := ih (Prod.ext rfl through)
          rw [GameState.unlocking_append] at behind
          exact ⟨achievement :: first, others, congrArg _ both, by rw [before], behind⟩

section

variable {hour : Nat} {state : GameState} {before after unlocked : List Achievement}
  {achievement : Achievement}

/-- An achievement that a pass left locked was locked at its turn, where its condition did not hold;
what was unlocked after that is of the achievements behind it. -/
theorem unlocks_at
    (passed : unlocks hour state (before ++ achievement :: after) = (unlocked, none))
    (lacks : (state.unlocking unlocked).Lacks achievement.id) :
    ∃ first others, unlocked = first ++ others ∧ others.Sublist after ∧
      Condition.evaluate hour (state.unlocking first) achievement.conditions = .ok false := by
  obtain ⟨first, others, rfl, -, behind⟩ := unlocks_append passed
  rw [← GameState.unlocking_append] at lacks
  have locked := lacks.of_unlocking.locked
  cases answer : Condition.evaluate hour (state.unlocking first) achievement.conditions with
  | error fault =>
    rw [unlocks_of_error locked answer] at behind
    cases behind
  | ok holds =>
    cases holds with
    | true =>
      rw [unlocks_of_earned locked answer] at behind
      obtain ⟨rfl, -⟩ := Prod.mk.inj behind
      exact absurd (by simp [GameState.unlocking, GameState.withAchievements]) lacks.absent
    | false =>
      rw [unlocks_of_refused locked answer] at behind
      have sub := unlocks_sublist hour (state.unlocking first) after
      rw [behind] at sub
      exact ⟨first, others, rfl, sub, answer⟩

end

/-! ## What is told of it -/

/-- What is announced when an achievement is unlocked. -/
def announcement (achievement : Achievement) : Event :=
  .achievementUnlocked achievement.id achievement.name achievement.points

end Achievement

/-- The sitting once achievements were written down and announced, and sounds were played. -/
def Sitting.unlocking (s : Sitting) (achievements : List Achievement) (played : List AudioCall) :
    Sitting :=
  { s with engine := { s.engine with
      state := s.engine.state.map fun state => state.unlocking achievements
      published := s.engine.published ++ achievements.map fun achievement =>
        ⟨achievement.announcement, s.world.now⟩
      played } }

namespace Sitting

theorem unlocking_unlocking (s : Sitting) (achievements others : List Achievement)
    (played replayed : List AudioCall) :
    (s.unlocking achievements played).unlocking others replayed =
      s.unlocking (achievements ++ others) replayed := by
  unfold unlocking
  simp [GameState.unlocking_append, Function.comp_def]

theorem unlocking_nil (s : Sitting) : s.unlocking [] s.engine.played = s := by
  unfold unlocking
  simp

end Sitting

namespace Turn

theorem outcome_unlock {s : Sitting} {state : GameState} (isState : s.engine.state = some state)
    (achievement : Achievement) :
    ∃ played, outcome (unlock achievement) s = (.ok (), s.unlocking [achievement] played) := by
  have unlocked : (s.unlocking [achievement] s.engine.played).engine.state =
      some (state.unlocking [achievement]) := congrArg (Option.map _) isState
  have told : outcome (unlock achievement) s = outcome (do
      if (← Turn.state).settings.soundEnabled.isTruthy then
        play (.playSound achievement.sound .null false)) (s.unlocking [achievement] s.engine.played) :=
    rfl
  rw [told, outcome_bind_of_ok (outcome_state_of_some unlocked)]
  split
  · exact ⟨_, rfl⟩
  · exact ⟨_, rfl⟩

/-- Asks whether an achievement is earned by now. -/
def award (achievement : Achievement) : Turn Unit := do
  let state ← state
  if !state.hasAchievement achievement.id then
    if ← Condition.evaluate (Timestamp.hour (← now)) state achievement.conditions then
      unlock achievement

def awardAll (achievements : List Achievement) : Turn Unit := do
  for achievement in achievements do
    award achievement

theorem awardAll_cons (achievement : Achievement) (achievements : List Achievement) :
    awardAll (achievement :: achievements) = (do
      award achievement
      awardAll achievements) := by
  simp only [awardAll, List.forIn_cons, bind_assoc, pure_bind]

theorem checkAchievements_eq :
    checkAchievements = (do
      awardAll (← (← engine).content.achievements (← state).storyId)) := by
  unfold checkAchievements awardAll award
  simp only [bind_assoc]
  refine bind_congr fun engine => bind_congr fun state => bind_congr fun achievements => ?_
  congr 1
  refine congrArg (forIn achievements PUnit.unit) (funext fun achievement => funext fun _ => ?_)
  refine bind_congr fun state => ?_
  split
  · simp only [bind_assoc]
    refine bind_congr fun now => bind_congr fun holds => ?_
    split
    · rfl
    · rw [pure_bind]
  · rw [pure_bind]

section

variable {s : Sitting} {state : GameState}

theorem outcome_award_of_had (isState : s.engine.state = some state) {achievement : Achievement}
    (had : state.hasAchievement achievement.id = true) :
    outcome (award achievement) s = (.ok (), s) := by
  unfold award
  rw [outcome_bind_of_ok (outcome_state_of_some isState), if_neg (by simp [had])]
  rfl

theorem outcome_award_of_locked (isState : s.engine.state = some state) {achievement : Achievement}
    (locked : state.hasAchievement achievement.id = false) :
    outcome (award achievement) s =
      match Condition.evaluate (Timestamp.hour s.world.now) state achievement.conditions with
      | .error fault => (.error fault, s)
      | .ok false => (.ok (), s)
      | .ok true => outcome (unlock achievement) s := by
  unfold award
  rw [outcome_bind_of_ok (outcome_state_of_some isState), if_pos (by simp [locked])]
  rw [outcome_bind_of_ok (outcome_now s)]
  rw [outcome_bind, outcome_lift]
  rcases Condition.evaluate (Timestamp.hour s.world.now) state achievement.conditions with _ | holds
  · rfl
  · cases holds <;> rfl

variable {achievements unlocked : List Achievement} {failure : Option Fault}

/-- To ask for achievements one after another is one pass over them. -/
theorem outcome_awardAll (isState : s.engine.state = some state)
    (pass : Achievement.unlocks (Timestamp.hour s.world.now) state achievements =
      (unlocked, failure)) :
    ∃ played, outcome (awardAll achievements) s =
      (failure.elim (.ok ()) .error, s.unlocking unlocked played) := by
  induction achievements generalizing s state unlocked with
  | nil =>
    cases pass
    exact ⟨s.engine.played, by rw [Sitting.unlocking_nil]; rfl⟩
  | cons achievement achievements ih =>
    rw [awardAll_cons]
    cases locked : state.hasAchievement achievement.id with
    | true =>
      rw [Achievement.unlocks_of_had locked] at pass
      rw [outcome_bind_of_ok (outcome_award_of_had isState locked)]
      exact ih isState pass
    | false =>
      have awarded := outcome_award_of_locked isState locked
      cases answer : Condition.evaluate (Timestamp.hour s.world.now) state achievement.conditions with
      | error fault =>
        rw [Achievement.unlocks_of_error locked answer] at pass
        cases pass
        rw [answer] at awarded
        rw [outcome_bind_of_error awarded]
        exact ⟨s.engine.played, by rw [Sitting.unlocking_nil]; rfl⟩
      | ok holds =>
        rw [answer] at awarded
        cases holds with
        | false =>
          rw [Achievement.unlocks_of_refused locked answer] at pass
          rw [outcome_bind_of_ok awarded]
          exact ih isState pass
        | true =>
          rw [Achievement.unlocks_of_earned locked answer] at pass
          obtain ⟨rfl, rfl⟩ := Prod.mk.inj pass
          obtain ⟨played, unlocked⟩ := outcome_unlock isState achievement
          rw [outcome_bind_of_ok (awarded.trans unlocked)]
          have isState' : (s.unlocking [achievement] played).engine.state =
              some (state.unlocking [achievement]) := congrArg (Option.map _) isState
          obtain ⟨replayed, rest⟩ := ih isState' rfl
          rw [Sitting.unlocking_unlocking] at rest
          exact ⟨replayed, rest⟩

/-- What a check of the achievements of the story comes to. -/
theorem checkAchievements_ends (isState : s.engine.state = some state)
    (authored : s.engine.content.achievements state.storyId = .ok achievements)
    (pass : Achievement.unlocks (Timestamp.hour s.world.now) state achievements =
      (unlocked, failure)) :
    ∃ played, outcome checkAchievements s =
      (failure.elim (.ok ()) .error, s.unlocking unlocked played) := by
  rw [checkAchievements_eq, outcome_bind_of_ok (outcome_engine s)]
  rw [outcome_bind_of_ok (outcome_state_of_some isState)]
  rw [outcome_bind_of_ok (by rw [authored, outcome_lift])]
  exact outcome_awardAll isState pass

end

/-- A check finds nothing to go through, or it is one pass over the achievements of the story. -/
theorem checkAchievements_cases (s : Sitting) :
    (∃ fault, outcome checkAchievements s = (.error fault, s)) ∨
    ∃ state achievements unlocked failure played, s.engine.state = some state ∧
      s.engine.content.achievements state.storyId = .ok achievements ∧
      Achievement.unlocks (Timestamp.hour s.world.now) state achievements = (unlocked, failure) ∧
      outcome checkAchievements s =
        (failure.elim (.ok ()) .error, s.unlocking unlocked played) := by
  cases isState : s.engine.state with
  | none =>
    refine .inl ⟨.noField "NoneType" "state", ?_⟩
    rw [checkAchievements_eq, outcome_bind_of_ok (outcome_engine s)]
    exact outcome_bind_of_error (by rw [outcome_state, isState]) _
  | some state =>
    cases authored : s.engine.content.achievements state.storyId with
    | error fault =>
      refine .inl ⟨fault, ?_⟩
      rw [checkAchievements_eq, outcome_bind_of_ok (outcome_engine s)]
      rw [outcome_bind_of_ok (outcome_state_of_some isState)]
      exact outcome_bind_of_error (by rw [authored, outcome_lift]) _
    | ok achievements =>
      obtain ⟨played, ends⟩ := checkAchievements_ends isState authored rfl
      exact .inr ⟨state, achievements, _, _, played, rfl, authored, rfl, ends⟩

/-- A check goes along what its passes go along. -/
theorem leads_checkAchievements {rel : Sitting → Sitting → Prop} [Std.Refl rel]
    (h : ∀ {s : Sitting} {state : GameState} {achievements unlocked : List Achievement}
      {failure : Option Fault}, s.engine.state = some state →
        s.engine.content.achievements state.storyId = .ok achievements →
        Achievement.unlocks (Timestamp.hour s.world.now) state achievements = (unlocked, failure) →
        ∀ played, rel s (s.unlocking unlocked played)) :
    Leads rel checkAchievements := by
  intro s
  rcases checkAchievements_cases s with ⟨fault, failed⟩ |
    ⟨state, achievements, unlocked, failure, played, isState, authored, pass, ends⟩
  · rw [after, failed]
    exact Std.Refl.refl s
  · rw [after, ends]
    exact h isState authored pass played

/-- A check that gets through is a pass that does. -/
theorem pass_of_checked {s t : Sitting} (checked : outcome checkAchievements s = (.ok (), t)) :
    ∃ state achievements unlocked played, s.engine.state = some state ∧
      s.engine.content.achievements state.storyId = .ok achievements ∧
      Achievement.unlocks (Timestamp.hour s.world.now) state achievements = (unlocked, none) ∧
      t = s.unlocking unlocked played := by
  rcases checkAchievements_cases s with ⟨fault, failed⟩ |
    ⟨state, achievements, unlocked, failure, played, isState, authored, pass, ends⟩
  · rw [failed] at checked
    cases checked
  · rw [ends] at checked
    cases failure with
    | some fault => cases checked
    | none =>
      cases checked
      exact ⟨state, achievements, unlocked, played, isState, authored, pass, rfl⟩

end Turn

/-! ## Two trophies -/

namespace Trophies

def guest : Achievement where
  id := "guest"
  name := "Guest"

/-- For those who have the other one. -/
def collector : Achievement where
  id := "collector"
  name := "Collector"
  conditions := .object [("hasAchievement", "guest")]

end Trophies

end InteractiveFiction
