import InteractiveFiction.Proofs.Engine.Keys
import InteractiveFiction.Proofs.Engine.Targets
import InteractiveFiction.Proofs.Mishaps

/-!
What an entry can fail with, and the end of a story.

With a typed library, in a game whose curses and blessings are held under their own keys and that is
of a story and has visited scenes that are named by keys, an entry to what a key names fails by the
rules, by a condition that raises or by a number that overflows or is too long, and in no other way
(`foreseen_of_enterScene`).  A check of the achievements of a known story fails only where a
condition raises (`condition_of_checkAchievements`).

When a story ends, its achievements are checked for the last time, and the game is closed
(`closeGame`).  To close a game never fails, whether it can be saved or not, if the scenes that it
visited are named by keys (`closeGame_returns`); so a story of the library fails to end only where
the condition of an achievement raises (`condition_of_endGame`).  `Sitting.Evades`: the runs in
which no choice comes to certain faults.
-/

set_option autoImplicit false

namespace InteractiveFiction

open Course

/-- A fault of the rules, of a condition or of a number. -/
def Fault.IsForeseen (fault : Fault) : Prop :=
  fault.isOfGame = true ∨ fault.isMishap = true

theorem Result.FailsByMishap.foreseen {α : Type} {r : Result α} (h : r.FailsByMishap) :
    r.FailsIn Fault.IsForeseen :=
  h.weaken fun _ => .inr

namespace Repository

variable {repository : Repository} {story : Document}

theorem find_foreseen {α : Type} (record? : Document → Option α) {missing : Fault} {id : Document}
    (isId : id.isKey = true) (ofGame : missing.isOfGame = true) :
    Result.FailsIn Fault.IsForeseen (find record? missing id) := by
  refine find_failsIn record? id (fun other => ?_) (.inl ofGame)
  rw [isId] at other
  cases other

theorem story_foreseen (isId : story.isKey = true) :
    Result.FailsIn Fault.IsForeseen (repository.story story) :=
  find_foreseen _ isId rfl

theorem scene_foreseen (isStory : story.isKey = true) {id : Document} (isId : id.isKey = true) :
    Result.FailsIn Fault.IsForeseen (repository.scene story id) :=
  .bind (story_foreseen isStory) fun _ => find_foreseen _ isId rfl

theorem Typed.characters_foreseen (typed : repository.Typed) (isStory : story.isKey = true)
    {id : Document} (isId : id.isKey = true) :
    Result.FailsIn Fault.IsForeseen (repository.characters story id) := by
  refine .bind (story_foreseen isStory) fun told => ?_
  cases found : repository.scene story id with
  | error fault => exact .throw (scene_foreseen isStory isId fault found)
  | ok scene => exact collect_failsIn _ (typed.scene found).characterIds.odd

theorem choices_foreseen (isStory : story.isKey = true) {ids : List Document}
    (areIds : Document.AreKeys ids) :
    Result.FailsIn Fault.IsForeseen (repository.choices story ids) :=
  .bind (story_foreseen isStory) fun _ => collect_failsIn _ areIds.odd

theorem sceneCount_foreseen (isStory : story.isKey = true) :
    Result.FailsIn Fault.IsForeseen (repository.sceneCount story) :=
  .bind (story_foreseen isStory) fun _ => .pure _

theorem achievements_foreseen (isStory : story.isKey = true) :
    Result.FailsIn Fault.IsForeseen (repository.achievements story) :=
  .bind (story_foreseen isStory) fun _ => .pure _

end Repository

/-! ## Achievements -/

theorem Achievement.condition_of_unlocks {hour : Nat} {state : GameState}
    {achievements : List Achievement} {fault : Fault}
    (failed : (unlocks hour state achievements).2 = some fault) : fault.isOfConditions = true := by
  induction achievements generalizing state with
  | nil => cases failed
  | cons achievement achievements ih =>
    cases locked : state.hasAchievement achievement.id with
    | true =>
      rw [unlocks_of_had locked] at failed
      exact ih failed
    | false =>
      cases answer : Condition.evaluate hour state achievement.conditions with
      | error fault' =>
        rw [unlocks_of_error locked answer] at failed
        cases failed
        exact Condition.evaluate_failsByCondition _ _ _ fault answer
      | ok holds =>
        cases holds with
        | false =>
          rw [unlocks_of_refused locked answer] at failed
          exact ih failed
        | true =>
          rw [unlocks_of_earned locked answer] at failed
          exact ih failed

namespace Turn

theorem condition_of_checkAchievements {s t : Sitting} {state : GameState}
    {achievements : List Achievement} {fault : Fault} (isState : s.engine.state = some state)
    (authored : s.engine.content.achievements state.storyId = .ok achievements)
    (failed : outcome checkAchievements s = (.error fault, t)) : fault.isOfConditions = true := by
  obtain ⟨played, ends⟩ := checkAchievements_ends isState authored rfl
  rw [ends] at failed
  cases stopped : (Achievement.unlocks (Timestamp.hour s.world.now) state achievements).2 with
  | none =>
    rw [stopped] at failed
    cases failed
  | some fault' =>
    rw [stopped] at failed
    cases failed
    exact Achievement.condition_of_unlocks stopped

end Turn

/-! ## Turns that add nothing to the history -/

/-- The scenes that the game has visited, if there is a game. -/
def Sitting.visits (s : Sitting) : Option (List Document) :=
  s.engine.state.map fun state => state.progress.scenesVisited

def Sitting.standing (s : Sitting) : Option Standing :=
  s.engine.state.map GameState.standing

theorem Sitting.visits_of_standing {s t : Sitting} (h : t.standing = s.standing) :
    t.visits = s.visits := by
  have visits : ∀ u : Sitting, u.visits =
      u.standing.map fun standing => standing.progress.scenesVisited := by
    intro u
    rw [standing, Option.map_map]
    rfl
  rw [visits, visits, h]

namespace Turn

variable {α : Type}

abbrev KeepsVisits (turn : Turn α) : Prop :=
  Confined Sitting.visits AnyFault turn

theorem modifyState_keepsVisits {change : GameState → GameState}
    (h : ∀ state, (change state).progress.scenesVisited = state.progress.scenesVisited) :
    KeepsVisits (modifyState change) :=
  .modify fun s => map_modified h s.engine.state

theorem publish_keepsVisits (event : Event) : KeepsVisits (publish event) :=
  .bind confined_now fun _ => .modify fun _ => rfl

/-- Rules that work in front of the backdrop leave the standing of the game alone. -/
theorem onStage_keepsStanding {action : Action α} (h : InFront action) :
    Confined Sitting.standing AnyFault (onStage action) := by
  refine .intro fun s => ⟨?_, Result.anyFault _⟩
  cases isState : s.engine.state with
  | none =>
    rw [outcome_onStage_of_none isState]
  | some state =>
    rw [outcome_onStage_of_some isState]
    have kept : (after action (s.stage state)).state.standing = state.standing :=
      congrArg Prod.fst (h.keeps (s.stage state))
    rw [Sitting.standing, Sitting.standing, isState]
    exact congrArg some kept

theorem sweep_keepsStanding : Confined Sitting.standing AnyFault sweep :=
  .bind confined_now fun now => onStage_keepsStanding (TimedEffect.expire_inFront now)

theorem commit_keepsVisits (id : Document) : KeepsVisits (commit id) := by
  refine .bind ((weigh_reads id).through fun _ _ same => congrArg Sitting.visits same)
    fun weighed => ?_
  have applies := onStage_keepsStanding weighed.2.1.effects.process_inFront
  refine .bind (applies.through fun _ _ same => Sitting.visits_of_standing same) fun effects => ?_
  refine .bind (.bind confined_now fun _ => ?_) fun _ => .pure _
  exact modifyState_keepsVisits fun _ => rfl

theorem save_keepsVisits (name : Document) (autosave : Bool) :
    KeepsVisits (save name autosave) := by
  have marks : ∀ lastSaved, KeepsVisits (setLastSaved lastSaved) := fun _ =>
    modifyState_keepsVisits fun _ => rfl
  refine .bind (confined_state trivial) fun previous => .bind confined_now fun now => ?_
  refine .bind (marks _) fun _ => .bind (modifyState_keepsVisits fun _ => rfl) fun _ => ?_
  refine .bind confined_world fun world => .bind (confined_state trivial) fun state => ?_
  dsimp only
  refine .bind (.modify fun _ => rfl) fun _ => ?_
  split
  · exact .bind (publish_keepsVisits _) fun _ => .pure _
  · exact .bind (marks _) fun _ => .throw trivial

end Turn

/-! ## Turns whose failures are foreseen -/

/-- The story of a game and the scenes that it visited are named by keys. -/
structure GameState.Named (state : GameState) : Prop where
  story : state.storyId.isKey = true
  visited : Document.AreKeys state.progress.scenesVisited

theorem GameState.Named.of_standing {state other : GameState} (h : state.Named)
    (same : other.standing = state.standing) : other.Named := by
  have story : other.storyId = state.storyId := congrArg Standing.story same
  have progress : other.progress = state.progress := congrArg Standing.progress same
  exact ⟨story ▸ h.story, progress ▸ h.visited⟩

/-- There is a game with names, and the library is typed. -/
structure Sitting.Ready (s : Sitting) : Prop where
  typed : s.engine.content.Typed
  playing : s.engine.state.isSome = true
  named : ∀ state, s.engine.state = some state → state.Named

theorem Sitting.Ready.game {s : Sitting} (ready : s.Ready) :
    ∃ state, s.engine.state = some state ∧ state.Named := by
  obtain ⟨state, isState⟩ := Option.isSome_iff_exists.1 ready.playing
  exact ⟨state, isState, ready.named state isState⟩

/-- A sitting with a game of the same standing in the same library is as ready. -/
theorem Sitting.Ready.of_standing {s t : Sitting} (ready : s.Ready)
    (content : t.engine.content = s.engine.content)
    (same : t.engine.state.map GameState.standing = s.engine.state.map GameState.standing) :
    t.Ready := by
  obtain ⟨state, isState, named⟩ := ready.game
  rw [isState] at same
  obtain ⟨left, isLeft, standing⟩ := Option.map_eq_some_iff.1 same
  refine ⟨content ▸ ready.typed, by rw [isLeft]; rfl, fun other isOther => ?_⟩
  obtain rfl : left = other := Option.some.inj (isLeft.symm.trans isOther)
  exact named.of_standing standing

namespace Turn

variable {α β : Type}

/-- A turn that a ready engine does not fail but as foreseen, and that leaves it ready. -/
def Foreseen (turn : Turn α) : Prop :=
  ∀ s : Sitting, s.Ready → (after turn s).Ready ∧ Result.FailsIn Fault.IsForeseen (result turn s)

namespace Foreseen

theorem of_outcome {turn : Turn α} (h : Foreseen turn) {s t : Sitting} {r : Except Fault α}
    (ready : s.Ready) (ends : outcome turn s = (r, t)) :
    t.Ready ∧ Result.FailsIn Fault.IsForeseen r := by
  have held := h s ready
  rwa [after, result, ends] at held

theorem of_reads {turn : Turn α} (h : Confined (fun s => s) Fault.IsForeseen turn) :
    Foreseen turn := by
  intro s ready
  rw [h.after_eq s]
  exact ⟨ready, h.fails s⟩

theorem pure (a : α) : Foreseen (pure a : Turn α) :=
  of_reads (.pure a)

theorem bind {turn : Turn α} {f : α → Turn β} (h : Foreseen turn) (hf : ∀ a, Foreseen (f a)) :
    Foreseen (turn >>= f) := by
  intro s ready
  rw [after, result, outcome_bind]
  rcases ends : outcome turn s with ⟨r, t⟩
  obtain ⟨ready', fails⟩ := h.of_outcome ready ends
  cases r with
  | ok a => exact hf a t ready'
  | error fault => exact ⟨ready', .throw (fails fault rfl)⟩

theorem branch {p : Prop} [Decidable p] {turn other : Turn α} (h : Foreseen turn)
    (h' : Foreseen other) : Foreseen (if p then turn else other) := by
  split
  · exact h
  · exact h'

theorem lift {r : Result α} (h : r.FailsIn Fault.IsForeseen) : Foreseen (liftM r : Turn α) :=
  of_reads (confined_lift h)

/-- What follows may rely on what a result gives. -/
theorem lift_bind {r : Result α} {f : α → Turn β} (h : r.FailsIn Fault.IsForeseen)
    (hf : ∀ a, r = .ok a → Foreseen (f a)) : Foreseen (liftM r >>= f) := by
  intro s ready
  rw [after, result, outcome_bind, outcome_lift]
  cases r with
  | ok a => exact hf a rfl s ready
  | error fault => exact ⟨ready, .throw (h fault rfl)⟩

theorem engine_bind {f : Engine → Turn β}
    (hf : ∀ engine, engine.content.Typed → Foreseen (f engine)) : Foreseen (Turn.engine >>= f) := by
  intro s ready
  rw [after, result, outcome_bind_of_ok (outcome_engine s)]
  exact hf s.engine ready.typed s ready

theorem now : Foreseen Turn.now :=
  of_reads confined_now

theorem state_bind {f : GameState → Turn β}
    (hf : ∀ state : GameState, state.Named → Foreseen (f state)) :
    Foreseen (Turn.state >>= f) := by
  intro s ready
  obtain ⟨state, isState, named⟩ := ready.game
  rw [after, result, outcome_bind_of_ok (outcome_state_of_some isState)]
  exact hf state named s ready

theorem modifyEngine {change : Engine → Engine}
    (h : ∀ engine, (change engine).content = engine.content ∧ (change engine).state = engine.state) :
    Foreseen (modifyEngine change) := by
  intro s ready
  obtain ⟨content, state⟩ := h s.engine
  exact ⟨ready.of_standing content (congrArg (Option.map GameState.standing) state), .ok ()⟩

theorem modifyState {change : GameState → GameState}
    (h : ∀ state : GameState, state.Named → (change state).Named) :
    Foreseen (modifyState change) := by
  intro s ready
  refine ⟨⟨ready.typed, ?_, fun left isLeft => ?_⟩, .ok ()⟩
  · exact Option.isSome_map.trans ready.playing
  · obtain ⟨state, isState, rfl⟩ := Option.map_eq_some_iff.1 isLeft
    exact h state (ready.named state isState)

theorem publish (event : Event) : Foreseen (publish event) :=
  bind now fun _ => modifyEngine fun _ => ⟨rfl, rfl⟩

theorem play (call : AudioCall) : Foreseen (play call) :=
  modifyEngine fun _ => ⟨rfl, rfl⟩

theorem onStage {action : Action α} (h : FailsByNumber action) (inFront : InFront action) :
    Foreseen (onStage action) := by
  intro s ready
  obtain ⟨state, isState, named⟩ := ready.game
  have standing : (after action (s.stage state)).state.standing = state.standing :=
    congrArg Prod.fst (inFront.keeps (s.stage state))
  rw [after, result, outcome_onStage_of_some isState]
  refine ⟨ready.of_standing rfl ?_, ?_⟩
  · rw [isState]
    exact congrArg some standing
  · exact (h.fails (s.stage state)).weaken fun _ number => .inr (Fault.isMishap_of_numbers number)

end Foreseen

theorem checkAchievements_foreseen : Foreseen checkAchievements := by
  intro s ready
  obtain ⟨state, isState, named⟩ := ready.game
  cases authored : s.engine.content.achievements state.storyId with
  | error fault =>
    have failed : outcome checkAchievements s = (.error fault, s) := by
      rw [checkAchievements_eq, outcome_bind_of_ok (outcome_engine s)]
      rw [outcome_bind_of_ok (outcome_state_of_some isState)]
      exact outcome_bind_of_error (by rw [authored, outcome_lift]) _
    rw [after, result, failed]
    exact ⟨ready, .throw (Repository.achievements_foreseen named.story fault authored)⟩
  | ok achievements =>
    obtain ⟨played, ends⟩ := checkAchievements_ends isState authored rfl
    refine ⟨?_, fun fault failed => .inr (Fault.isMishap_of_conditions ?_)⟩
    · rw [after, ends]
      refine ⟨ready.typed, Option.isSome_map.trans ready.playing, fun left isLeft => ?_⟩
      obtain ⟨before, isBefore, rfl⟩ := Option.map_eq_some_iff.1 isLeft
      have own := ready.named before isBefore
      exact ⟨own.story, own.visited⟩
    · exact condition_of_checkAchievements isState authored (Prod.ext failed rfl)

theorem findScene_foreseen {id : Document} (isId : id.isKey = true) (mode : EntryMode) :
    Foreseen (findScene id mode) := by
  have answers : ∀ (scene : Scene) now state,
      Result.FailsIn Fault.IsForeseen (scene.isAccessible now state) := fun scene now state =>
    (Condition.evaluate_failsByCondition _ _ _).mishap.foreseen
  refine .state_bind fun state named => .engine_bind fun engine _ => ?_
  refine .bind (.lift (Repository.scene_foreseen named.story isId)) fun scene => ?_
  refine .branch (.bind .now fun now => .bind (.lift (answers _ _ _)) fun accessible => ?_) (.pure scene)
  exact .branch (.bind (.of_reads (.throw (.inl rfl))) fun _ => .pure scene) (.pure scene)

theorem prepareScene_foreseen {scene : Scene} (own : scene.Typed) :
    Foreseen (prepareScene scene) := by
  refine .engine_bind fun engine typed => .state_bind fun state named => ?_
  refine .bind (.lift (typed.characters_foreseen named.story own.id)) fun characters => ?_
  refine .bind (.modifyEngine fun _ => ⟨rfl, rfl⟩) fun _ => .state_bind fun state _ => ?_
  have renders : Foreseen (renderScene engine.content scene) := by
    refine .state_bind fun state named => .bind .now fun now => ?_
    refine .lift_bind (Repository.choices_foreseen named.story own.choiceIds)
      fun choices found => ?_
    have rendered := own.render_failsByMishap now state (typed.choices found)
    exact .bind (.lift rendered.foreseen) fun _ => .pure _
  exact .branch (.bind (.play _) fun _ => renders) renders

theorem arrive_foreseen {id : Document} (isId : id.isKey = true) (mode : EntryMode) {scene : Scene}
    (own : scene.Typed) : Foreseen (arrive id mode scene) := by
  have moves : Foreseen (moveTo id mode) := by
    refine .bind (.modifyEngine fun _ => ⟨rfl, rfl⟩) fun _ => ?_
    refine .bind (.modifyState fun state named => ⟨named.story, named.visited⟩) fun _ => ?_
    refine .branch (.modifyState fun state named => ⟨named.story, ?_⟩) (.pure ())
    exact List.forall_mem_append.2 ⟨named.visited, List.forall_mem_singleton.2 isId⟩
  have prepares := prepareScene_foreseen own
  have applies : Foreseen (onStage scene.effects.process) :=
    .onStage own.effects.process_failsByNumber scene.effects.process_inFront
  have reaches : Foreseen (reach id mode scene) :=
    .bind moves fun _ => .branch (.bind applies fun _ => prepares) prepares
  exact .bind reaches fun _ => .bind (.modifyEngine fun _ => ⟨rfl, rfl⟩) fun _ => .pure _

theorem countVisit_foreseen (id : Document) (presented : PresentedScene) :
    Foreseen (countVisit id presented) := by
  have updates : Foreseen updateProgress := by
    refine .state_bind fun state named => .engine_bind fun engine _ => ?_
    refine .bind (.lift (Repository.sceneCount_foreseen named.story)) fun total => ?_
    refine .bind (.lift (visitedCount_failsIn named.visited.odd)) fun visited => ?_
    refine .branch (.bind (.modifyState fun state named => ?_) fun _ => .publish _) (.pure ())
    exact ⟨named.story, named.visited⟩
  exact .bind updates fun _ => .bind checkAchievements_foreseen fun _ => .publish _

/-- An entry into a game fails by the rules, by a condition or by a number. -/
theorem foreseen_of_enterScene {id : Document} {mode : EntryMode} {s t : Sitting} {fault : Fault}
    (isId : id.isKey = true) (ready : s.Ready) (keyed : s.WellKeyed)
    (failed : outcome (enterScene id mode) s = (.error fault, t)) : fault.IsForeseen := by
  rw [enterScene_eq] at failed
  obtain ⟨state, isState, -⟩ := ready.game
  obtain ⟨lapsed, s₁, swept⟩ := keyed.sweep_returns isState
  have ready₁ : s₁.Ready := by
    have content : s₁.engine.content = s.engine.content :=
      congrArg (fun footing : Engine × Option Place => footing.1.content)
        (sweep_steady.of_outcome swept).1
    refine ready.of_standing content ?_
    exact (sweep_keepsStanding.of_outcome swept).1
  have approaches : outcome (approach id mode) s = outcome (findScene id mode) s₁ :=
    outcome_bind_of_ok swept _
  rcases error_of_outcome_bind failed with unfound | ⟨scene, s₂, approached, rest⟩
  · rw [approaches] at unfound
    exact ((findScene_foreseen isId mode).of_outcome ready₁ unfound).2 fault rfl
  obtain ⟨left, isLeft, found⟩ := scene_of_approach approached
  rw [approaches] at approached
  have ready₂ := ((findScene_foreseen isId mode).of_outcome ready₁ approached).1
  have arrives := arrive_foreseen isId mode (ready₂.typed.scene found)
  rcases error_of_outcome_bind rest with unarrived | ⟨presented, s₃, arrived, settles⟩
  · exact (arrives.of_outcome ready₂ unarrived).2 fault rfl
  have ready₃ := (arrives.of_outcome ready₂ arrived).1
  rcases error_of_outcome_bind settles with uncounted | ⟨_, s₄, -, concludes⟩
  · exact ((countVisit_foreseen id presented).of_outcome ready₃ uncounted).2 fault rfl
  · split at concludes <;> cases concludes

end Turn

/-! ## The end of a story -/

/-- What is announced of the end of a game. -/
def GameState.ending (state : GameState) : Event :=
  .gameEnded state.id (Turn.visitedOnce state).length state.progress.achievementsUnlocked

namespace Turn

/-- Saves the game that has ended; where that fails, it is only told. -/
def saveEnded : Turn Unit :=
  tryCatch
    (do
      let _ ← save finalSaveName false)
    fun fault => report "end_game" fault

/-- What is left to do once the achievements were checked for the last time. -/
def closeGame : Turn Unit := do
  saveEnded
  play .stopAll
  announceEnd

theorem outcome_endGame {s : Sitting} (inGame : s.engine.status ≠ .ended) :
    outcome endGame s = outcome (do checkAchievements; closeGame) s.concluded := by
  unfold endGame
  rw [outcome_bind_of_ok (outcome_engine s), if_pos inGame]
  exact outcome_bind_of_ok (outcome_modifyEngine _ _) _

theorem Recording.saveEnded {rel : Sitting → Sitting → Prop} [Std.Refl rel] [Trans rel rel rel]
    (h : Recording rel) : Leads rel saveEnded :=
  .tryCatch (.bind (h.save _ _) fun _ => .pure ()) fun fault => h.fails _ (by decide) fault

/-- A game that has ended is there, saved or not, and has visited what it had visited. -/
theorem saveEnded_returns {s : Sitting} {state : GameState} (isState : s.engine.state = some state) :
    ∃ left t, outcome saveEnded s = (.ok (), t) ∧ t.engine.state = some left ∧
      left.progress.scenesVisited = state.progress.scenesVisited := by
  have saves : Steady (fun _ => False) saveEnded :=
    .tryCatch (.bind (save_steady finalSaveName false) fun _ => .pure ()) fun _ _ => report_steady _ _
  have keeps : KeepsVisits saveEnded :=
    .tryCatch (.bind (save_keepsVisits _ _) fun _ => .pure ()) fun _ _ => publish_keepsVisits _
  rcases saved : outcome saveEnded s with ⟨r, t⟩
  have never := (saves.of_outcome saved).2
  have visits : t.visits = s.visits := (keeps.of_outcome saved).1
  rw [Sitting.visits, Sitting.visits, isState] at visits
  obtain ⟨left, isLeft, same⟩ := Option.map_eq_some_iff.1 visits
  cases r with
  | error fault => exact absurd (never fault rfl) not_false
  | ok _ => exact ⟨left, t, rfl, isLeft, same⟩

theorem outcome_closeGame {s t : Sitting} {left : GameState}
    (saved : outcome saveEnded s = (.ok (), t)) (isLeft : t.engine.state = some left) :
    outcome closeGame s = match visitedCount left with
      | .ok _ => (.ok (), (after (play .stopAll) t).announce left.ending)
      | .error fault => (.error fault, after (play .stopAll) t) := by
  have plays : outcome (play .stopAll) t = (.ok (), after (play .stopAll) t) := rfl
  have isLeft' : (after (play .stopAll) t).engine.state = some left := isLeft
  rw [closeGame, outcome_bind_of_ok saved, outcome_bind_of_ok plays, announceEnd,
    outcome_bind_of_ok (outcome_state_of_some isLeft')]
  cases counted : visitedCount left with
  | ok visited =>
    rw [GameState.ending, ← eq_length_of_visitedCount counted]
    rw [outcome_bind_of_ok (by rw [outcome_lift])]
    exact outcome_publish _ _
  | error fault => exact outcome_bind_of_error (by rw [outcome_lift]) _

theorem closeGame_returns {s : Sitting} {state : GameState} (isState : s.engine.state = some state)
    (keys : Document.AreKeys state.progress.scenesVisited) :
    ∃ t, outcome closeGame s = (.ok (), t) := by
  obtain ⟨left, t, saved, isLeft, visited⟩ := saveEnded_returns isState
  rw [outcome_closeGame saved isLeft]
  cases counted : visitedCount left with
  | ok visited => exact ⟨_, rfl⟩
  | error fault =>
    have never : Result.FailsIn (fun _ => False) (visitedCount left) :=
      visitedCount_failsIn (Document.AreKeys.odd (visited ▸ keys))
    exact (never fault counted).elim

/-- A story of the library fails to end only where the condition of an achievement raises, if the
scenes that were visited are named by keys. -/
theorem condition_of_endGame {s t : Sitting} {fault : Fault}
    (inGame : s.engine.status ≠ .ended) (plays : ∃ story, Plays story s.scenery)
    (keys : ∀ visited, s.visits = some visited → Document.AreKeys visited)
    (failed : outcome endGame s = (.error fault, t)) : fault.isOfConditions = true := by
  obtain ⟨story, place, isPlace, isStory⟩ := plays
  obtain ⟨state, isState, rfl⟩ := Engine.state_of_place isPlace
  rw [outcome_endGame inGame] at failed
  have isState' : s.concluded.engine.state = some state := isState
  have authored : s.concluded.engine.content.achievements state.storyId = .ok story.achievements :=
    Result.bind_of_ok isStory _
  rcases error_of_outcome_bind failed with raised | ⟨_, s₁, checked, unclosed⟩
  · exact condition_of_checkAchievements isState' authored raised
  · obtain ⟨before, -, unlocked, played, isBefore, -, -, rfl⟩ := pass_of_checked checked
    obtain rfl : state = before := Option.some.inj (isState'.symm.trans isBefore)
    have isLeft : (s.concluded.unlocking unlocked played).engine.state =
        some (state.unlocking unlocked) :=
      congrArg (Option.map _) isBefore
    have visited : s.visits = some state.progress.scenesVisited := by
      rw [Sitting.visits, isState]
      rfl
    obtain ⟨u, closed⟩ := closeGame_returns isLeft (keys _ visited)
    rw [closed] at unclosed
    cases unclosed

end Turn

/-! ## Runs that evade faults -/

/-- A choice does not come to such faults. -/
def Operation.Evades (faults : Fault → Bool) (s : Sitting) : Operation → Prop
  | .choose id => ∀ fault, fault? (Turn.makeChoice id) s = some fault → faults fault = false
  | _ => True

/-- None of the choices of a run comes to such faults. -/
abbrev Sitting.Evades (faults : Fault → Bool) (s : Sitting) (operations : List Operation) : Prop :=
  s.Throughout (Operation.Evades faults) operations

end InteractiveFiction
