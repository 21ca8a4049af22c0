import InteractiveFiction.Proofs.Engine.Choosing
import InteractiveFiction.Proofs.Engine.Opening
import InteractiveFiction.Proofs.Heedless

/-!
The scores of a game: how far its story has come, and the achievements that were unlocked.

* Until the new scene is rendered, an entry leaves the scores as they were, and so do the effects of
  a choice (`KeepsScores`).
* From then on, scores and timers are all that changes (`KeepsOffer`).
* To count a visit is to set scores that take no achievement back, and to tell of it (`Counting`).
-/

set_option autoImplicit false

namespace InteractiveFiction

open Course

structure Scores where
  storyProgress : Int := 0
  achievements : List Document := []
deriving DecidableEq

namespace GameState

def scores (state : GameState) : Scores :=
  ⟨state.progress.storyProgress, state.progress.achievementsUnlocked⟩

def withScores (state : GameState) (scores : Scores) : GameState :=
  { state with progress := { state.progress with
      storyProgress := scores.storyProgress, achievementsUnlocked := scores.achievements } }

@[simp] theorem withScores_scores (state : GameState) : state.withScores state.scores = state := rfl

@[simp] theorem withScores_withScores (state : GameState) (scores others : Scores) :
    (state.withScores scores).withScores others = state.withScores others := rfl

theorem scores_of_standing {state other : GameState} (h : state.standing = other.standing) :
    state.scores = other.scores :=
  congrArg (fun standing : Standing =>
    (⟨standing.progress.storyProgress, standing.progress.achievementsUnlocked⟩ : Scores)) h

end GameState

namespace Sitting

/-- The stories there are, and the scores of the game. -/
def tally (s : Sitting) : Repository × Option Scores :=
  (s.engine.content, s.engine.state.map GameState.scores)

/-- What a scene is judged by, the scores apart. -/
def offering (s : Sitting) : Instant × Repository × Option PresentedScene × Option GameState :=
  (s.world.now, s.engine.content, s.engine.scene, s.engine.state.map fun state =>
    state.withScores {})

/-- The sitting without who is there and what was played. -/
def offstage (s : Sitting) : Sitting :=
  { s with engine := { s.engine with cast := {}, played := [] } }

end Sitting

namespace Turn

variable {α : Type}

/-! ## Before the scene is rendered -/

abbrev KeepsScores (turn : Turn α) : Prop :=
  Confined Sitting.tally AnyFault turn

theorem modifyState_keepsScores {change : GameState → GameState}
    (h : ∀ state, (change state).scores = state.scores) : KeepsScores (modifyState change) := by
  refine .modify fun s => Prod.ext rfl ?_
  cases hs : s.engine.state with
  | none => simp [Sitting.tally, hs]
  | some state => simp [Sitting.tally, hs, h]

theorem onStage_keepsScores {action : Action α} (h : InFront action) :
    KeepsScores (onStage action) := by
  refine .intro fun s => ?_
  cases hs : s.engine.state with
  | none =>
    rw [outcome_onStage_of_none hs]
    exact ⟨rfl, Result.anyFault _⟩
  | some state =>
    rw [outcome_onStage_of_some hs]
    have kept : (after action (s.stage state)).state.standing = state.standing :=
      congrArg Prod.fst (h.keeps (s.stage state))
    refine ⟨Prod.ext rfl ?_, Result.anyFault _⟩
    simp [Sitting.tally, Sitting.withStage, hs, GameState.scores_of_standing kept]

theorem keepsScores_of_reads {turn : Turn α} (h : Confined (fun s => s) AnyFault turn) :
    KeepsScores turn :=
  ⟨fun s => congrArg Sitting.tally (h.keeps s), h.fails⟩

theorem approach_keepsScores (id : Document) (mode : EntryMode) :
    KeepsScores (approach id mode) := by
  have swept : KeepsScores sweep :=
    .bind confined_now fun now => onStage_keepsScores (TimedEffect.expire_inFront now)
  exact .bind swept fun _ => keepsScores_of_reads (findScene_reads id mode)

theorem moveTo_keepsScores (id : Document) (mode : EntryMode) : KeepsScores (moveTo id mode) := by
  refine .bind (.modify fun _ => rfl) fun _ => ?_
  refine .bind (modifyState_keepsScores fun _ => rfl) fun _ => ?_
  exact .branch (modifyState_keepsScores fun _ => rfl) (.pure ())

theorem renderScene_reads (content : Repository) (scene : Scene) :
    Confined (fun s => s) AnyFault (renderScene content scene) := by
  refine .bind (confined_state trivial) fun state => .bind confined_now fun now => ?_
  refine .bind (confined_lift (Result.anyFault _)) fun choices => ?_
  exact .bind (confined_lift (Result.anyFault _)) fun _ => .pure _

/-- Who is there and what is played is all that changes for a scene to be prepared. -/
theorem prepareScene_confined (scene : Scene) :
    Confined Sitting.offstage AnyFault (prepareScene scene) := by
  refine .bind confined_engine fun engine => .bind (confined_state trivial) fun state => ?_
  refine .bind (confined_lift (Result.anyFault _)) fun characters => ?_
  refine .bind (.modify fun _ => rfl) fun _ => .bind (confined_state trivial) fun _ => ?_
  have renders : Confined Sitting.offstage AnyFault (renderScene engine.content scene) :=
    (renderScene_reads engine.content scene).through fun _ _ same => congrArg Sitting.offstage same
  exact .branch (.bind (.modify fun _ => rfl) fun _ => renders) renders

theorem prepareScene_keepsScores (scene : Scene) : KeepsScores (prepareScene scene) :=
  (prepareScene_confined scene).through fun _ _ same => (congrArg Sitting.tally same :)

theorem reach_keepsScores (id : Document) (mode : EntryMode) (scene : Scene) :
    KeepsScores (reach id mode scene) := by
  refine .bind (moveTo_keepsScores id mode) fun _ => ?_
  have applies := onStage_keepsScores scene.effects.process_inFront
  have prepares := prepareScene_keepsScores scene
  exact .branch (.bind applies fun _ => prepares) prepares

theorem commit_keepsScores (id : Document) : KeepsScores (commit id) := by
  refine .bind (keepsScores_of_reads (weigh_reads id)) fun weighed => ?_
  refine .bind (onStage_keepsScores weighed.2.1.effects.process_inFront) fun effects => ?_
  refine .bind ?_ fun _ => .pure _
  exact .bind confined_now fun _ => modifyState_keepsScores fun _ => rfl

/-! ## Counting a visit -/

/-- What counting a visit is made of goes along a relation. -/
structure Counting (rel : Sitting → Sitting → Prop) : Prop where
  scores : ∀ change : GameState → Scores,
    (∀ state, state.progress.achievementsUnlocked <+: (change state).achievements) →
      Leads rel (modifyState fun state => state.withScores (change state))
  tells : ∀ event : Event, event.isClosing = false → Leads rel (publish event)
  plays : ∀ call, Leads rel (play call)

namespace Counting

variable {rel : Sitting → Sitting → Prop} [Std.Refl rel] [Trans rel rel rel]

theorem updateProgress (h : Counting rel) : Leads rel updateProgress := by
  refine .bind (.of_reads (confined_state trivial)) fun state => ?_
  refine .bind (.of_reads confined_engine) fun engine => ?_
  refine .bind (.of_reads (confined_lift (Result.anyFault _))) fun total => ?_
  refine .bind (.of_reads (confined_lift (Result.anyFault _))) fun visited => ?_
  refine .branch (.bind ?_ fun _ => h.tells (.progressUpdated _) rfl) (.pure ())
  exact h.scores (fun state => { state.scores with storyProgress := percent visited total })
    fun _ => List.prefix_refl _

theorem unlock (h : Counting rel) (achievement : Achievement) : Leads rel (unlock achievement) := by
  refine .bind ?_ fun _ => .bind (h.tells _ rfl) fun _ => ?_
  · exact h.scores (fun state => { state.scores with
      achievements := state.progress.achievementsUnlocked ++ [achievement.id] })
      fun _ => List.prefix_append _ _
  · refine .bind (.of_reads (confined_state trivial)) fun state => ?_
    exact .branch (h.plays _) (.pure ())

theorem checkAchievements (h : Counting rel) : Leads rel checkAchievements := by
  refine .bind (.of_reads confined_engine) fun engine => ?_
  refine .bind (.of_reads (confined_state trivial)) fun state => ?_
  refine .bind (.of_reads (confined_lift (Result.anyFault _))) fun achievements => ?_
  refine .bind (.forIn _ _ fun achievement _ _ => ?_) fun _ => .pure ()
  refine .bind (.of_reads (confined_state trivial)) fun state => .branch ?_ (.pure _)
  refine .bind (.of_reads confined_now) fun now => ?_
  refine .bind (.of_reads (confined_lift (Result.anyFault _))) fun holds => ?_
  exact .branch (.bind (h.unlock achievement) fun _ => .pure _) (.pure _)

theorem countVisit (h : Counting rel) (id : Document) (presented : PresentedScene) :
    Leads rel (countVisit id presented) :=
  .bind h.updateProgress fun _ => .bind h.checkAchievements fun _ => h.tells _ rfl

end Counting

/-! ## Once the scene is shown -/

abbrev KeepsOffer (turn : Turn α) : Prop :=
  Confined Sitting.offering AnyFault turn

theorem keepsOffer_counting : Counting (Keeps Sitting.offering) where
  scores change _ := by
    refine .modify fun s => ?_
    cases hs : s.engine.state with
    | none => simp [Keeps, Sitting.offering, hs]
    | some state => simp [Keeps, Sitting.offering, hs]
  tells _ _ := .bind (.of_reads confined_now) fun _ => .modify fun _ => rfl
  plays _ := .modify fun _ => rfl

theorem settleIn_keepsOffer (id : Document) (mode : EntryMode) (scene : Scene)
    (presented : PresentedScene) : KeepsOffer (settleIn id mode scene presented) := by
  have counted : KeepsOffer (countVisit id presented) :=
    ⟨keepsOffer_counting.countVisit id presented, fun _ => Result.anyFault _⟩
  refine .bind counted fun _ => .branch (.bind confined_world fun world => ?_) (.pure _)
  refine .bind (.modify fun s => ?_) fun _ => .pure _
  have armed := Engine.untimed_arm { s.engine with delayed := scene.timeEffects } world.elapsed
  exact (congrArg (fun engine : Engine => Sitting.offering { s with engine }) armed :)

end Turn

end InteractiveFiction
