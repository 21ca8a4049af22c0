import InteractiveFiction.Proofs.Effect.Changes
import InteractiveFiction.Proofs.Number.Order
import InteractiveFiction.Proofs.State.Reading

/-!
How a player fares while a bundle is applied.

* `Player.InBounds`: health and mana between nothing and their maxima, no debts, no attribute
  below one.
* `GameState.Fares before after`: what one part of a bundle may make of a state.  Bounds that held
  hold, the maxima stay, and the level never falls; when it rises, health and mana are full.
* `Effect.parts_fare`: every part of every bundle is of this kind, also when it fails.
-/

set_option autoImplicit false

namespace InteractiveFiction

open Course

/-! ## Bounds -/

structure Player.InBounds (player : Player) : Prop where
  health : 0 ≤ player.health ∧ player.health ≤ player.maxHealth
  mana : 0 ≤ player.mana ∧ player.mana ≤ player.maxMana
  gold : 0 ≤ player.gold
  experience : Number.le 0 player.experience = true
  attributes : ∀ entry ∈ player.attributes.entries, 1 ≤ entry.2

structure GameState.Fares (before after : GameState) : Prop where
  bounds : before.player.InBounds → after.player.InBounds
  relationships : before.RelationshipsInRange → after.RelationshipsInRange
  maxHealth : after.player.maxHealth = before.player.maxHealth
  maxMana : after.player.maxMana = before.player.maxMana
  level : before.player.level ≤ after.player.level
  restored : before.player.level < after.player.level →
    after.player.health = after.player.maxHealth ∧ after.player.mana = after.player.maxMana

theorem GameState.Fares.refl (state : GameState) : state.Fares state where
  bounds := fun held => held
  relationships := fun held => held
  maxHealth := rfl
  maxMana := rfl
  level := Int.le_refl _
  restored := by simp

instance : Std.Refl GameState.Fares :=
  ⟨GameState.Fares.refl⟩

/-! ## Parts that spare the player -/

/-- The player stays as he is, and no relationship leaves its range. -/
structure GameState.Spares (before after : GameState) : Prop where
  player : after.player = before.player
  relationships : before.RelationshipsInRange → after.RelationshipsInRange

namespace GameState.Spares

instance : Std.Refl Spares :=
  ⟨fun _ => ⟨rfl, fun held => held⟩⟩

instance : Trans Spares Spares Spares :=
  ⟨fun h h' => ⟨h'.player.trans h.player, fun held => h'.relationships (h.relationships held)⟩⟩

theorem fares {before after : GameState} (h : Spares before after) : before.Fares after where
  bounds := fun held => by rwa [h.player]
  relationships := h.relationships
  maxHealth := by rw [h.player]
  maxMana := by rw [h.player]
  level := Int.le_of_eq (congrArg Player.level h.player.symm)
  restored := by simp [h.player]

end GameState.Spares

/-- A computation that spares the player wherever it ends. -/
abbrev Sparing {α : Type} (action : Action α) : Prop :=
  Moving GameState.Spares action

/-! ## Relationships -/

theorem changedRelationship_inRange (old : Int) (delta : Number) :
    relationshipMin ≤ changedRelationship old delta ∧
      changedRelationship old delta ≤ relationshipMax := by
  cases delta with
  | int delta => exact clampRelationship_inRange (old + delta)
  | float delta =>
    obtain ⟨n, part, bounds⟩ := Number.truncate?_clamp (Number.int old + .float delta)
      (by decide : relationshipMin ≤ 0) (by decide : 0 ≤ relationshipMax)
    simp only [changedRelationship, part, Option.getD_some]
    exact bounds

theorem applyRelationships_sparing (deltas : OrderedMap Int) :
    Sparing (Effect.applyRelationships deltas) := by
  refine Effect.applyRelationships_moving fun state character _ old delta => ⟨rfl, ?_⟩
  intro held entry mem
  rcases OrderedMap.mem_insert mem with rfl | mem
  · exact changedRelationship_inRange _ _
  · exact held entry mem

namespace Effect

open InteractiveFiction.Action

/-! ## Parts that change the player -/

/-- A part after which, wherever it ends, the player has fared as one may. -/
abbrev Faring {α : Type} (action : Action α) : Prop :=
  Moving GameState.Fares action

theorem Faring.of_sparing {α : Type} {action : Action α} (h : Sparing action) : Faring action :=
  fun stage => GameState.Spares.fares (h stage)

/-- Nothing but what was published and played is new. -/
def Stage.Reports (before after : Stage) : Prop :=
  after.state = before.state

instance : Std.Refl Stage.Reports :=
  ⟨fun _ => rfl⟩

instance : Trans Stage.Reports Stage.Reports Stage.Reports :=
  ⟨fun h h' => Eq.trans h' h⟩

theorem publish_reports (event : Event) : Leads Stage.Reports (Action.publish event) :=
  .modify fun _ => rfl

theorem changeOutcome_reports (type description : String) (old new : Number) (metadata : Fields) :
    Leads Stage.Reports (changeOutcome type description old new metadata) :=
  .of_after fun _ => rfl

theorem lift_reports {α : Type} (r : Result α) : Leads Stage.Reports (liftM r : Action α) :=
  .of_after fun stage => by rw [after, outcome_lift]

/-- A change is told in words, or the words cannot be written. -/
theorem worded_reports (words : Result String) (type : String) (old new : Number)
    (metadata : Fields) : Leads Stage.Reports (do
      let description ← words
      changeOutcome type description old new metadata) :=
  .bind (lift_reports words) fun _ => changeOutcome_reports type _ old new metadata

theorem state_after_applyGold (delta : Int) (stage : Stage) :
    (after (applyGold delta) stage).state =
      { stage.state with player :=
        { stage.state.player with gold := max 0 (stage.state.player.gold + delta) } } := by
  rw [applyGold, after, outcome_bind_of_ok (outcome_state stage)]
  dsimp only
  rw [outcome_bind_of_ok (outcome_modifyPlayer _ stage)]
  exact worded_reports _ _ _ _ _ _

theorem state_after_applyMana (delta : Number) (stage : Stage) :
    (after (applyMana delta) stage).state =
      match changed stage.state.player.mana delta stage.state.player.maxMana with
      | .ok new => { stage.state with player := { stage.state.player with mana := new } }
      | .error _ => stage.state := by
  unfold applyMana after
  rw [outcome_bind_of_ok (outcome_state stage), outcome_bind, outcome_lift]
  cases changed stage.state.player.mana delta stage.state.player.maxMana with
  | error fault => rfl
  | ok new =>
    dsimp only
    rw [outcome_bind_of_ok (outcome_modifyPlayer _ stage)]
    exact worded_reports _ _ _ _ _ _

/-- What is told of a change of health after it was made. -/
def reportHealth (delta : Number) (player : Player) (new : Int) : Action Outcome := do
  if ← isCritical new player.maxHealth then
    Action.publish (.criticalHealth new player.maxHealth)
  if new ≤ 0 then Action.publish (.playerDeath "health")
  let description ←
    inWords "Restored" "Took" (if (0 : Number).lt delta then "health" else "damage")
      ((0 : Number).lt delta) player.health new
  changeOutcome "health" description player.health new []

theorem applyHealth_eq (delta : Number) :
    applyHealth delta = (do
      let player := (← Action.state).player
      let new ← changed player.health delta player.maxHealth
      Action.modifyPlayer fun player => { player with health := new }
      reportHealth delta player new) :=
  rfl

theorem reportHealth_reports (delta : Number) (player : Player) (new : Int) :
    Leads Stage.Reports (reportHealth delta player new) := by
  have announce : ∀ (p : Prop) [Decidable p] (event : Event) (rest : Unit → Action Outcome),
      (∀ u, Leads Stage.Reports (rest u)) →
      Leads Stage.Reports (if p then Action.publish event >>= rest else rest ()) :=
    fun _ _ event _ tail => .branch (.bind (publish_reports event) tail) (tail ())
  refine .bind (lift_reports _) fun critical => ?_
  exact announce _ _ _ fun _ => announce _ _ _ fun _ => worded_reports _ _ _ _ _

theorem state_after_applyHealth (delta : Number) (stage : Stage) :
    (after (applyHealth delta) stage).state =
      match changed stage.state.player.health delta stage.state.player.maxHealth with
      | .ok new => { stage.state with player := { stage.state.player with health := new } }
      | .error _ => stage.state := by
  rw [applyHealth_eq, after, outcome_bind_of_ok (outcome_state stage), outcome_bind, outcome_lift]
  cases changed stage.state.player.health delta stage.state.player.maxHealth with
  | error fault => rfl
  | ok new => exact reportHealth_reports delta stage.state.player new _

theorem state_after_applyAttributes (deltas : OrderedMap Int) (stage : Stage) :
    (after (applyAttributes deltas) stage).state =
      { stage.state with player := { stage.state.player with
        attributes := raise stage.state.player.attributes deltas } } := by
  rw [applyAttributes, after, outcome_bind_of_ok (outcome_state stage)]
  dsimp only
  rw [outcome_bind_of_ok (outcome_modifyPlayer _ stage)]
  exact (.bind (lift_reports _) fun _ => .of_after fun _ => rfl : Leads Stage.Reports _) _

/-- How a change of experience may end: nothing is written if there is no sum, and only experience
if that is worth no level or the change cannot be told; where it is worth a higher level that is
reached, with health and mana restored. -/
inductive Learns (delta : Number) (state : GameState) : Except Fault Outcome → GameState → Prop
  | unsummed {fault : Fault} (sums : state.player.experience.plus delta = .error fault) :
      Learns delta state (.error fault) state
  | unranked {sum : Number} {fault : Fault} (sums : state.player.experience.plus delta = .ok sum)
      (ranks : levelFor (Number.max 0 sum) = .error fault) :
      Learns delta state (.error fault) { state with player :=
        { state.player with experience := Number.max 0 sum } }
  | untold {sum : Number} {level : Int} {fault : Fault}
      (sums : state.player.experience.plus delta = .ok sum)
      (ranks : levelFor (Number.max 0 sum) = .ok level)
      (words : inWords "Gained" "Lost" "experience" ((0 : Number).lt delta)
        state.player.experience (Number.max 0 sum) = .error fault) :
      Learns delta state (.error fault) { state with player :=
        { state.player with experience := Number.max 0 sum } }
  | stays {sum : Number} {level : Int} {told : Outcome}
      (sums : state.player.experience.plus delta = .ok sum)
      (ranks : levelFor (Number.max 0 sum) = .ok level) (reached : level ≤ state.player.level) :
      Learns delta state (.ok told) { state with player :=
        { state.player with experience := Number.max 0 sum } }
  | rises {sum : Number} {level : Int} {told : Outcome}
      (sums : state.player.experience.plus delta = .ok sum)
      (ranks : levelFor (Number.max 0 sum) = .ok level) (higher : state.player.level < level) :
      Learns delta state (.ok told) { state with player :=
        { state.player with
          experience := Number.max 0 sum, level
          health := state.player.maxHealth, mana := state.player.maxMana } }

theorem applyExperience_ends (delta : Number) (stage : Stage) :
    Learns delta stage.state (result (applyExperience delta) stage)
      (after (applyExperience delta) stage).state := by
  rw [result, after, applyExperience, outcome_bind_of_ok (outcome_state stage)]
  dsimp only
  rw [outcome_bind, outcome_lift]
  cases sums : stage.state.player.experience.plus delta with
  | error fault => exact .unsummed sums
  | ok sum =>
    dsimp only
    rw [outcome_bind_of_ok (outcome_modifyPlayer _ stage), outcome_bind, outcome_lift]
    cases ranks : levelFor (Number.max 0 sum) with
    | error fault => exact .unranked sums ranks
    | ok level =>
      dsimp only
      rw [outcome_bind, outcome_lift]
      cases words : inWords "Gained" "Lost" "experience" ((0 : Number).lt delta)
          stage.state.player.experience (Number.max 0 sum) with
      | error fault => exact .untold sums ranks words
      | ok description =>
        by_cases higher : stage.state.player.level < level
        · have reached : max stage.state.player.level level = level :=
            Int.max_eq_right (Int.le_of_lt higher)
          simp only [reached]
          rw [if_pos higher]
          exact .rises sums ranks higher
        · have reached : max stage.state.player.level level = stage.state.player.level :=
            Int.max_eq_left (Int.not_lt.1 higher)
          simp only [reached]
          rw [if_neg (Int.lt_irrefl _)]
          exact .stays sums ranks (Int.not_lt.1 higher)

/-! ### What they change -/

section Moving

variable {rel : GameState → GameState → Prop}

theorem applyGold_moving (paid : ∀ (state : GameState) gold,
    rel state { state with player := { state.player with gold } }) (delta : Int) :
    Moving rel (applyGold delta) := by
  intro stage
  change rel _ _
  rw [state_after_applyGold]
  exact paid _ _

theorem applyAttributes_moving {deltas : OrderedMap Int} (trained : ∀ state : GameState,
    rel state { state with player :=
      { state.player with attributes := raise state.player.attributes deltas } }) :
    Moving rel (applyAttributes deltas) := by
  intro stage
  change rel _ _
  rw [state_after_applyAttributes]
  exact trained stage.state

theorem applyExperience_moving [Std.Refl rel]
    (learned : ∀ (state : GameState) experience,
      rel state { state with player := { state.player with experience } })
    (rises : ∀ (state : GameState) experience level health mana,
      rel state { state with player := { state.player with experience, level, health, mana } })
    (delta : Number) : Moving rel (applyExperience delta) := by
  intro stage
  change rel _ _
  have ends := applyExperience_ends delta stage
  generalize result (applyExperience delta) stage = r at ends
  generalize (after (applyExperience delta) stage).state = left at ends ⊢
  cases ends with
  | unsummed _ => exact Std.Refl.refl stage.state
  | unranked _ _ => exact learned _ _
  | untold _ _ _ => exact learned _ _
  | stays _ _ _ => exact learned _ _
  | rises _ _ _ => exact rises _ _ _ _ _

variable [Std.Refl rel]

theorem applyHealth_moving (healed : ∀ (state : GameState) health,
    rel state { state with player := { state.player with health } }) (delta : Number) :
    Moving rel (applyHealth delta) := by
  intro stage
  change rel _ _
  rw [state_after_applyHealth]
  cases changed stage.state.player.health delta stage.state.player.maxHealth with
  | error fault => exact Std.Refl.refl stage.state
  | ok new => exact healed _ _

theorem applyMana_moving (charged : ∀ (state : GameState) mana,
    rel state { state with player := { state.player with mana } }) (delta : Number) :
    Moving rel (applyMana delta) := by
  intro stage
  change rel _ _
  rw [state_after_applyMana]
  cases changed stage.state.player.mana delta stage.state.player.maxMana with
  | error fault => exact Std.Refl.refl stage.state
  | ok new => exact charged _ _

end Moving

/-! ### How the player fares -/

theorem changed_inRange {old limit new : Int} {delta : Number} (nonneg : 0 ≤ limit)
    (h : changed old delta limit = .ok new) : 0 ≤ new ∧ new ≤ limit := by
  obtain ⟨sum, -, clamped⟩ := Result.ok_of_bind h
  exact Number.toInt_clamp nonneg clamped

theorem applyHealth_faring (delta : Number) : Faring (applyHealth delta) := by
  intro stage
  change GameState.Fares _ _
  rw [state_after_applyHealth]
  cases h : changed stage.state.player.health delta stage.state.player.maxHealth with
  | error fault => exact .refl stage.state
  | ok new =>
    refine { GameState.Fares.refl stage.state with bounds := fun held => ?_, restored := by simp }
    have nonneg : 0 ≤ stage.state.player.maxHealth := Int.le_trans held.health.1 held.health.2
    exact { held with health := changed_inRange nonneg h }

theorem applyMana_faring (delta : Number) : Faring (applyMana delta) := by
  intro stage
  change GameState.Fares _ _
  rw [state_after_applyMana]
  cases h : changed stage.state.player.mana delta stage.state.player.maxMana with
  | error fault => exact .refl stage.state
  | ok new =>
    refine { GameState.Fares.refl stage.state with bounds := fun held => ?_, restored := by simp }
    have nonneg : 0 ≤ stage.state.player.maxMana := Int.le_trans held.mana.1 held.mana.2
    exact { held with mana := changed_inRange nonneg h }

theorem applyGold_faring (delta : Int) : Faring (applyGold delta) := by
  intro stage
  change GameState.Fares _ _
  rw [state_after_applyGold]
  refine { GameState.Fares.refl stage.state with bounds := fun held => ?_, restored := by simp }
  exact { held with gold := Int.le_max_left 0 _ }

theorem applyExperience_faring (delta : Number) : Faring (applyExperience delta) := by
  intro stage
  change GameState.Fares _ _
  have learned : ∀ sum : Number, stage.state.Fares { stage.state with player :=
      { stage.state.player with experience := Number.max 0 sum } } := fun sum =>
    { GameState.Fares.refl stage.state with
      bounds := fun held => { held with experience := Number.zero_le_max sum }
      restored := by simp }
  have ends := applyExperience_ends delta stage
  generalize result (applyExperience delta) stage = r at ends
  generalize (after (applyExperience delta) stage).state = left at ends ⊢
  cases ends with
  | unsummed _ => exact .refl stage.state
  | unranked _ _ => exact learned _
  | untold _ _ _ => exact learned _
  | stays _ _ _ => exact learned _
  | rises _ _ higher =>
    refine { GameState.Fares.refl stage.state with
      bounds := fun held => ?_
      level := Int.le_of_lt higher
      restored := fun _ => ⟨rfl, rfl⟩ }
    have maxHealth := Int.le_trans held.health.1 held.health.2
    have maxMana := Int.le_trans held.mana.1 held.mana.2
    exact { held with
      experience := Number.zero_le_max _
      health := ⟨maxHealth, Int.le_refl _⟩
      mana := ⟨maxMana, Int.le_refl _⟩ }

/-- No attribute is raised above one and lowered below it again. -/
theorem raise_positive (attributes deltas : OrderedMap Int)
    (positive : ∀ entry ∈ attributes.entries, 1 ≤ entry.2) :
    ∀ entry ∈ (raise attributes deltas).entries, 1 ≤ entry.2 := by
  unfold raise
  induction deltas.entries generalizing attributes with
  | nil => exact positive
  | cons change deltas ih =>
    obtain ⟨name, delta⟩ := change
    rw [List.foldl_cons]
    apply ih
    dsimp only
    split
    · intro entry mem
      rcases OrderedMap.mem_insert mem with rfl | mem
      · exact Int.le_max_left 1 _
      · exact positive entry mem
    · exact positive

theorem applyAttributes_faring (deltas : OrderedMap Int) : Faring (applyAttributes deltas) := by
  refine applyAttributes_moving fun state => ?_
  refine { GameState.Fares.refl state with bounds := fun held => ?_, restored := by simp }
  exact { held with attributes := raise_positive _ deltas held.attributes }

/-- Whatever the part and however large its numbers, the player fares as one may. -/
theorem parts_fare (effect : Effect) : ∀ part ∈ effect.parts, Faring part := by
  have holding : ∀ (state : GameState) items, state.Spares (state.holding items) :=
    fun _ _ => ⟨rfl, id⟩
  have flagged : ∀ (state : GameState) flags, state.Spares { state with flags } :=
    fun _ _ => ⟨rfl, id⟩
  have timed : ∀ (state : GameState) timedEffects, state.Spares { state with timedEffects } :=
    fun _ _ => ⟨rfl, id⟩
  exact forall_mem_parts effect applyHealth_faring applyMana_faring applyGold_faring
    applyExperience_faring applyAttributes_faring
    (.of_sparing (applyFlags_moving fun state => flagged state _))
    (.of_sparing (applyAddItems_moving_of (Inventory.addItems_moving holding effect.addItems)))
    (.of_sparing
      (applyRemoveItems_moving_of (Inventory.removeItems_moving holding effect.removeItems)))
    (fun deltas => .of_sparing (applyRelationships_sparing deltas))
    (fun cue => .of_sparing (applySound_moving cue))
    (fun cue => .of_sparing (applyMusic_moving cue))
    (fun custom _ => .of_sparing (CustomEffect.apply_moving (fun state _ _ _ => flagged state _)
      fun state _ _ => timed state _))
    (fun names => .of_sparing (applyEvents_moving names))

end Effect

end InteractiveFiction
