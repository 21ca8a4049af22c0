import InteractiveFiction.Proofs.Effect.Failing
import InteractiveFiction.Proofs.Effect.Vitals

/-!
Where a bundle stops that fails, and what it leaves of the category it stopped in.

* `Fails action stage left`: an action fails on a stage, and leaves a state.
* `FailsAs r action`: an action fails exactly where `r` does, and leaves the state alone.
* `Effect.StopsAt effect stage category middle`: the categories before `category` were done, and it
  fails on what they left.
* `Effect.Stops effect before category left`: all the ways in which a category may fail, with the
  state it leaves.  Numbers and items are written before the last thing that may fail.
* `Effect.stopped_intact_iff`: a bundle that fails stops in one of these ways, and the fields of the
  category are as they were exactly if the whole state is.
-/

set_option autoImplicit false

namespace InteractiveFiction

open Course

/-! ## Failing, and what is left -/

/-- An action that fails and leaves a state. -/
def Fails {α : Type} (action : Action α) (stage : Stage) (left : GameState) : Prop :=
  ∃ fault last, outcome action stage = (.error fault, last) ∧ last.state = left

namespace Fails

variable {α β : Type} {stage : Stage} {left : GameState}

theorem not_of_delivers {action : Action α} (h : Delivers Anything action) :
    ¬ Fails action stage left := by
  rintro ⟨fault, last, fails, -⟩
  obtain ⟨a, s', ends, -⟩ := h stage
  rw [ends] at fails
  cases fails

/-- What is left is what is there afterwards. -/
theorem iff_of_outcome {action : Action α} {fault : Fault} {last : Stage}
    (ends : outcome action stage = (.error fault, last)) :
    Fails action stage left ↔ left = last.state := by
  constructor
  · rintro ⟨fault', last', fails, rfl⟩
    rw [ends] at fails
    cases fails
    rfl
  · rintro rfl
    exact ⟨fault, last, ends, rfl⟩

theorem bind_of_ok {action : Action α} {f : α → Action β} {a : α} {between : Stage}
    (first : outcome action stage = (.ok a, between)) :
    Fails (action >>= f) stage left ↔ Fails (f a) between left := by
  unfold Fails
  rw [outcome_bind_of_ok first]

theorem not_pure (a : α) : ¬ Fails (pure a : Action α) stage left :=
  not_of_delivers (.pure trivial)

/-- Where what follows never fails, the first part decides. -/
theorem bind_iff_left {action : Action α} {f : α → Action β}
    (next : ∀ a, Delivers Anything (f a)) :
    Fails (action >>= f) stage left ↔ Fails action stage left := by
  constructor
  · rintro ⟨fault, last, fails, same⟩
    rcases error_of_outcome_bind fails with first | ⟨a, between, -, later⟩
    · exact ⟨fault, last, first, same⟩
    · exact absurd ⟨fault, last, later, same⟩ (not_of_delivers (next a))
  · rintro ⟨fault, last, fails, same⟩
    exact ⟨fault, last, outcome_bind_of_error fails f, same⟩

theorem bind_lift_iff {r : Result α} {f : α → Action β} :
    Fails ((liftM r : Action α) >>= f) stage left ↔
      (∃ fault, r = .error fault ∧ stage.state = left) ∨ ∃ a, r = .ok a ∧ Fails (f a) stage left := by
  have first := Action.outcome_lift r stage
  cases r with
  | error fault =>
    rw [iff_of_outcome (outcome_bind_of_error first f)]
    simp [eq_comm]
  | ok a =>
    rw [bind_of_ok first]
    simp

theorem mapM_iff {f : β → Action α} {l : List β} :
    Fails (l.mapM f) stage left ↔
      ∃ front b back told middle, l = front ++ b :: back ∧
        outcome (front.mapM f) stage = (.ok told, middle) ∧ Fails (f b) middle left := by
  constructor
  · rintro ⟨fault, last, fails, same⟩
    obtain ⟨front, b, back, told, middle, split, done, own⟩ := outcome_mapM_error_iff.1 fails
    exact ⟨front, b, back, told, middle, split, done, fault, last, own, same⟩
  · rintro ⟨front, b, back, told, middle, split, done, fault, last, own, same⟩
    exact ⟨fault, last, outcome_mapM_error_iff.2 ⟨front, b, back, told, middle, split, done, own⟩, same⟩

end Fails

theorem Result.bind_fails_iff {α β : Type} {r : Result α} {f : α → Result β} :
    (∃ fault, r >>= f = .error fault) ↔
      (∃ fault, r = .error fault) ∨ ∃ a, r = .ok a ∧ ∃ fault, f a = .error fault := by
  cases r with
  | error fault => simp [bind, Except.bind]
  | ok a => simp [bind, Except.bind]

/-- An action that fails exactly where a result does, and then leaves the state alone. -/
def FailsAs {α β : Type} (r : Result β) (action : Action α) : Prop :=
  ∀ stage left, Fails action stage left ↔ (∃ fault, r = .error fault) ∧ stage.state = left

namespace FailsAs

variable {α β γ δ : Type} {stage : Stage} {left : GameState}

theorem lift {r : Result α} {f : α → Action β} (next : ∀ a, Delivers Anything (f a)) :
    FailsAs r ((liftM r : Action α) >>= f) := by
  intro stage left
  rw [Fails.bind_lift_iff, exists_and_right]
  refine or_iff_left ?_
  rintro ⟨a, -, fails⟩
  exact Fails.not_of_delivers (next a) fails

theorem bind {r : Result α} {next : α → Result γ} {f : α → Action β}
    (rest : ∀ a, FailsAs (next a) (f a)) : FailsAs (r >>= next) ((liftM r : Action α) >>= f) := by
  intro stage left
  rw [Fails.bind_lift_iff, Result.bind_fails_iff, or_and_right, exists_and_right]
  refine or_congr_right ⟨?_, ?_⟩
  · rintro ⟨a, isOk, fails⟩
    obtain ⟨failed, same⟩ := (rest a stage left).1 fails
    exact ⟨⟨a, isOk, failed⟩, same⟩
  · rintro ⟨⟨a, isOk, failed⟩, same⟩
    exact ⟨a, isOk, (rest a stage left).2 ⟨failed, same⟩⟩

/-- What is announced before it does not matter. -/
theorem announce {r : Result β} {rest : Unit → Action α} (p : Prop) [Decidable p] (event : Event)
    (tail : FailsAs r (rest ())) :
    FailsAs r (if p then Action.publish event >>= rest else rest ()) := by
  intro stage left
  split
  · exact (Fails.bind_of_ok rfl).trans (tail _ left)
  · exact tail stage left

/-- The player is changed between two computations that may fail: where the second does, the change
stays. -/
theorem write_between_iff {first : Result α} {change : α → Player → Player}
    {second : α → Result γ} {report : α → Action β} (reports : ∀ a, FailsAs (second a) (report a)) :
    Fails (do
      let a ← first
      Action.modifyPlayer (change a)
      report a) stage left ↔
      (∃ fault, first = .error fault ∧ stage.state = left) ∨
        ∃ a, first = .ok a ∧ (∃ fault, second a = .error fault) ∧
          { stage.state with player := change a stage.state.player } = left := by
  rw [Fails.bind_lift_iff]
  refine or_congr_right (exists_congr fun a => and_congr_right fun _ => ?_)
  rw [Fails.bind_of_ok (Action.outcome_modifyPlayer _ stage), reports]

end FailsAs

namespace Effect

open InteractiveFiction.Action Inventory

/-! ## What is told of a change -/

def healthWords (delta : Number) (old new : Int) : Result String :=
  inWords "Restored" "Took" (if (0 : Number).lt delta then "health" else "damage")
    ((0 : Number).lt delta) old new

def manaWords (delta : Number) (old new : Int) : Result String :=
  inWords "Restored" "Spent" "mana" ((0 : Number).lt delta) old new

def goldWords (delta old new : Int) : Result String :=
  inWords "Gained" "Spent" "gold" (decide (0 < delta)) old new

def experienceWords (delta old new : Number) : Result String :=
  inWords "Gained" "Lost" "experience" ((0 : Number).lt delta) old new

/-- What is told of the attributes that the player has. -/
def attributeWords (old deltas : OrderedMap Int) : Result (List String) :=
  (deltas.entries.filter fun (name, _) => old.contains name).mapM fun (name, delta) => do
    pure s!"{name} {← signed delta}"

/-! ## How a part may fail -/

variable {stage : Stage} {left : GameState}

theorem changeOutcome_delivers (type description : String) (old new : Number) (metadata : Fields) :
    Delivers Anything (changeOutcome type description old new metadata) :=
  fun stage => ⟨_, stage, rfl, trivial⟩

theorem applyHealth_fails_iff {delta : Number} :
    Fails (applyHealth delta) stage left ↔
      (∃ fault, changed stage.state.player.health delta stage.state.player.maxHealth = .error fault ∧
        stage.state = left) ∨
      ∃ new, changed stage.state.player.health delta stage.state.player.maxHealth = .ok new ∧
        ((∃ fault, isCritical new stage.state.player.maxHealth = .error fault) ∨
          ∃ critical, isCritical new stage.state.player.maxHealth = .ok critical ∧
            ∃ fault, healthWords delta stage.state.player.health new = .error fault) ∧
        { stage.state with player := { stage.state.player with health := new } } = left := by
  simp only [← Result.bind_fails_iff]
  rw [applyHealth, Fails.bind_of_ok (outcome_state stage)]
  refine FailsAs.write_between_iff fun new => .bind fun critical => ?_
  exact .announce _ _ (.announce _ _ (.lift fun _ => changeOutcome_delivers _ _ _ _ _))

theorem applyMana_fails_iff {delta : Number} :
    Fails (applyMana delta) stage left ↔
      (∃ fault, changed stage.state.player.mana delta stage.state.player.maxMana = .error fault ∧
        stage.state = left) ∨
      ∃ new, changed stage.state.player.mana delta stage.state.player.maxMana = .ok new ∧
        (∃ fault, manaWords delta stage.state.player.mana new = .error fault) ∧
        { stage.state with player := { stage.state.player with mana := new } } = left := by
  rw [applyMana, Fails.bind_of_ok (outcome_state stage)]
  exact FailsAs.write_between_iff fun new => .lift fun _ => changeOutcome_delivers _ _ _ _ _

theorem applyGold_fails_iff {delta : Int} :
    Fails (applyGold delta) stage left ↔
      (∃ fault, goldWords delta stage.state.player.gold
        (max 0 (stage.state.player.gold + delta)) = .error fault) ∧
      { stage.state with player := { stage.state.player with
        gold := max 0 (stage.state.player.gold + delta) } } = left := by
  rw [applyGold, Fails.bind_of_ok (outcome_state stage)]
  dsimp only
  rw [Fails.bind_of_ok (outcome_modifyPlayer _ stage)]
  exact FailsAs.lift (fun _ => changeOutcome_delivers _ _ _ _ _) _ _

theorem applyExperience_fails_iff {delta : Number} :
    Fails (applyExperience delta) stage left ↔
      (∃ fault, stage.state.player.experience.plus delta = .error fault ∧ stage.state = left) ∨
      ∃ sum, stage.state.player.experience.plus delta = .ok sum ∧
        ((∃ fault, levelFor (Number.max 0 sum) = .error fault) ∨
          ∃ level, levelFor (Number.max 0 sum) = .ok level ∧
            ∃ fault, experienceWords delta stage.state.player.experience (Number.max 0 sum) =
              .error fault) ∧
        { stage.state with player :=
          { stage.state.player with experience := Number.max 0 sum } } = left := by
  simp only [← Result.bind_fails_iff]
  rw [applyExperience, Fails.bind_of_ok (outcome_state stage)]
  refine FailsAs.write_between_iff fun sum => .bind fun level => .lift fun words => ?_
  refine .branch ?_ (changeOutcome_delivers _ _ _ _ _)
  exact .bind (delivers_modifyState _) fun _ _ =>
    .bind (delivers_publish _) fun _ _ => changeOutcome_delivers _ _ _ _ _

theorem applyAttributes_fails_iff {deltas : OrderedMap Int} :
    Fails (applyAttributes deltas) stage left ↔
      (∃ fault, attributeWords stage.state.player.attributes deltas = .error fault) ∧
      { stage.state with player := { stage.state.player with
        attributes := raise stage.state.player.attributes deltas } } = left := by
  rw [applyAttributes, Fails.bind_of_ok (outcome_state stage)]
  dsimp only
  rw [Fails.bind_of_ok (outcome_modifyPlayer _ stage)]
  exact FailsAs.lift (fun _ => .bind delivers_now fun _ _ => .pure trivial) _ _

/-- What is told of items fails where they were moved and one of their names is no text. -/
theorem listing_fails_iff {moved : Bool} {names : List Document} {told : Instant → String → Outcome}
    {refused : Instant → Outcome} :
    Fails (do
      let now ← Action.now
      if moved then pure (told now (← listed names)) else pure (refused now)) stage left ↔
      moved = true ∧ (∃ fault, listed names = .error fault) ∧ stage.state = left := by
  have timed : outcome Action.now stage = (.ok stage.now, stage) := rfl
  rw [Fails.bind_of_ok timed]
  cases moved with
  | false => simp [Fails.not_pure]
  | true =>
    rw [if_pos rfl, Fails.bind_lift_iff]
    simp [Fails.not_pure]

theorem applyAddItems_fails_iff {items : List Item} :
    Fails (applyAddItems items) stage left ↔
      stage.state.hasRoom (used items) = true ∧
        ((∃ fault, (putAll stage.state.inventory items).2 = some fault) ∨
          ((putAll stage.state.inventory items).2 = none ∧
            ∃ fault, listed (items.map Item.name) = .error fault)) ∧
        stage.state.holding (putAll stage.state.inventory items).1 = left := by
  obtain ⟨last, adds, put⟩ := addItems_puts items stage
  cases room : stage.state.hasRoom (used items) with
  | false =>
    rw [room] at adds
    refine ((Fails.bind_of_ok adds).trans listing_fails_iff).trans ?_
    simp
  | true =>
    rw [room] at adds put
    rw [if_pos rfl] at put
    rw [← put]
    cases stuck : (putAll stage.state.inventory items).2 with
    | some fault =>
      rw [stuck] at adds
      rw [applyAddItems, Fails.iff_of_outcome (outcome_bind_of_error adds _)]
      simp [eq_comm]
    | none =>
      rw [stuck] at adds
      refine ((Fails.bind_of_ok adds).trans listing_fails_iff).trans ?_
      simp

theorem applyRemoveItems_fails_iff {removals : List ItemRemoval} :
    Fails (applyRemoveItems removals) stage left ↔
      covers stage.state.inventory removals = true ∧
        (∃ fault, listed (removals.map ItemRemoval.title) = .error fault) ∧
        stage.state.holding (takeAll (needed removals).entries stage.state.inventory) = left := by
  obtain ⟨last, removes, took⟩ := removeItems_ends removals stage
  refine ((Fails.bind_of_ok removes).trans listing_fails_iff).trans ?_
  refine and_congr_right fun covered => ?_
  rw [took, if_pos covered]

/-! ## How a category may fail -/

/-- The ways in which a category may fail, and the state that is left by each. -/
inductive Stops (effect : Effect) (before : GameState) : Category → GameState → Prop
  | healthUnsummed {delta : Number} {fault : Fault} (asked : effect.health = some delta)
      (sums : changed before.player.health delta before.player.maxHealth = .error fault) :
      Stops effect before .health before
  /-- The new health is written, and then cannot be compared with the maximum. -/
  | healthUnweighed {delta : Number} {new : Int} {fault : Fault} (asked : effect.health = some delta)
      (sums : changed before.player.health delta before.player.maxHealth = .ok new)
      (weighs : isCritical new before.player.maxHealth = .error fault) :
      Stops effect before .health
        { before with player := { before.player with health := new } }
  /-- The new health is written, and then the change is too long to be told. -/
  | healthUntold {delta : Number} {new : Int} {critical : Bool} {fault : Fault}
      (asked : effect.health = some delta)
      (sums : changed before.player.health delta before.player.maxHealth = .ok new)
      (weighs : isCritical new before.player.maxHealth = .ok critical)
      (words : healthWords delta before.player.health new = .error fault) :
      Stops effect before .health
        { before with player := { before.player with health := new } }
  | manaUnsummed {delta : Number} {fault : Fault} (asked : effect.mana = some delta)
      (sums : changed before.player.mana delta before.player.maxMana = .error fault) :
      Stops effect before .mana before
  /-- The same of mana. -/
  | manaUntold {delta : Number} {new : Int} {fault : Fault} (asked : effect.mana = some delta)
      (sums : changed before.player.mana delta before.player.maxMana = .ok new)
      (words : manaWords delta before.player.mana new = .error fault) :
      Stops effect before .mana { before with player := { before.player with mana := new } }
  /-- The same of gold. -/
  | goldUntold {delta : Int} {fault : Fault} (asked : effect.gold = some delta)
      (words : goldWords delta before.player.gold (max 0 (before.player.gold + delta)) =
        .error fault) :
      Stops effect before .gold { before with player :=
        { before.player with gold := max 0 (before.player.gold + delta) } }
  | experienceUnsummed {delta : Number} {fault : Fault} (asked : effect.experience = some delta)
      (sums : before.player.experience.plus delta = .error fault) :
      Stops effect before .experience before
  /-- The new experience is written, and is then worth no level. -/
  | experienceUnranked {delta sum : Number} {fault : Fault} (asked : effect.experience = some delta)
      (sums : before.player.experience.plus delta = .ok sum)
      (ranks : levelFor (Number.max 0 sum) = .error fault) :
      Stops effect before .experience
        { before with player := { before.player with experience := Number.max 0 sum } }
  /-- The new experience is written, and then the change is too long to be told. -/
  | experienceUntold {delta sum : Number} {level : Int} {fault : Fault}
      (asked : effect.experience = some delta)
      (sums : before.player.experience.plus delta = .ok sum)
      (ranks : levelFor (Number.max 0 sum) = .ok level)
      (words : experienceWords delta before.player.experience (Number.max 0 sum) = .error fault) :
      Stops effect before .experience
        { before with player := { before.player with experience := Number.max 0 sum } }
  /-- The new attributes are written, and then a change is too long to be told. -/
  | attributesUntold {fault : Fault}
      (words : attributeWords before.player.attributes effect.attributes = .error fault) :
      Stops effect before .attributes { before with player :=
        { before.player with attributes := raise before.player.attributes effect.attributes } }
  /-- Items are put in up to one that cannot be stacked. -/
  | addedUnstacked {fault : Fault} (asked : effect.addItems ≠ [])
      (room : before.hasRoom (used effect.addItems) = true)
      (stuck : (putAll before.inventory effect.addItems).2 = some fault) :
      Stops effect before .addItems (before.holding (putAll before.inventory effect.addItems).1)
  /-- All items are put in, and one of their names is no text. -/
  | addedUnnamed {fault : Fault} (asked : effect.addItems ≠ [])
      (room : before.hasRoom (used effect.addItems) = true)
      (put : (putAll before.inventory effect.addItems).2 = none)
      (names : listed (effect.addItems.map Item.name) = .error fault) :
      Stops effect before .addItems (before.holding (putAll before.inventory effect.addItems).1)
  /-- All that is asked for is taken out, and one of its names is no text. -/
  | removedUnnamed {fault : Fault} (asked : effect.removeItems ≠ [])
      (covered : covers before.inventory effect.removeItems = true)
      (names : listed (effect.removeItems.map ItemRemoval.title) = .error fault) :
      Stops effect before .removeItems
        (before.holding (takeAll (needed effect.removeItems).entries before.inventory))

theorem applyFlags_delivers (flags : Flags) : Delivers Anything (applyFlags flags) :=
  .bind delivers_state fun _ _ => .bind (delivers_modifyState _) fun _ _ =>
    .bind delivers_now fun _ _ => .pure trivial

theorem applyRelationships_delivers (deltas : OrderedMap Int) :
    Delivers Anything (applyRelationships deltas) := by
  have adjusts : ∀ character delta, Delivers Anything (adjustRelationship character delta) := by
    intro character delta
    refine .bind delivers_state fun _ _ => .bind (delivers_modifyState _) fun _ _ => .branch ?_ ?_
    · exact .bind (delivers_publish _) fun _ _ => .pure trivial
    · exact .pure trivial
  refine .bind (.mapM _ fun entry => ?_) fun _ _ => .bind delivers_now fun _ _ => .pure trivial
  exact .bind delivers_state fun _ _ => .bind (adjusts _ _) fun _ _ => .pure trivial

theorem applyCue_delivers (type muted played : String) (enabled : Document) (cue : AudioCue)
    (call : AudioCall) : Delivers Anything (applyCue type muted played enabled cue call) := by
  intro stage
  obtain ⟨told, ends, -⟩ := applyCue_ends type muted played enabled cue call stage
  exact ⟨told, _, ends, trivial⟩

theorem custom_delivers (custom : CustomEffect) : Delivers Anything custom.apply :=
  .tryCatch fun _ => .bind delivers_now fun _ _ => .pure trivial

theorem applyEvents_delivers (names : List String) : Delivers Anything (applyEvents names) := by
  refine .bind delivers_state fun _ _ => .bind (.forIn _ _ fun _ _ => ?_) fun _ _ => ?_
  · exact .bind (delivers_publish _) fun _ _ => .pure trivial
  · exact .bind delivers_now fun _ _ => .pure trivial

variable {effect : Effect}

theorem applyHealth_stops_iff {delta : Number} (asked : effect.health = some delta) :
    Fails (applyHealth delta) stage left ↔ effect.Stops stage.state .health left := by
  rw [applyHealth_fails_iff]
  constructor
  · rintro (⟨fault, sums, rfl⟩ |
      ⟨new, sums, ⟨fault, weighs⟩ | ⟨critical, weighs, fault, words⟩, rfl⟩)
    · exact .healthUnsummed asked sums
    · exact .healthUnweighed asked sums weighs
    · exact .healthUntold asked sums weighs words
  · intro stops
    cases stops with
    | healthUnsummed asked' sums =>
      cases asked.symm.trans asked'
      exact .inl ⟨_, sums, rfl⟩
    | healthUnweighed asked' sums weighs =>
      cases asked.symm.trans asked'
      exact .inr ⟨_, sums, .inl ⟨_, weighs⟩, rfl⟩
    | healthUntold asked' sums weighs words =>
      cases asked.symm.trans asked'
      exact .inr ⟨_, sums, .inr ⟨_, weighs, _, words⟩, rfl⟩

theorem applyMana_stops_iff {delta : Number} (asked : effect.mana = some delta) :
    Fails (applyMana delta) stage left ↔ effect.Stops stage.state .mana left := by
  rw [applyMana_fails_iff]
  constructor
  · rintro (⟨fault, sums, rfl⟩ | ⟨new, sums, ⟨fault, words⟩, rfl⟩)
    · exact .manaUnsummed asked sums
    · exact .manaUntold asked sums words
  · intro stops
    cases stops with
    | manaUnsummed asked' sums =>
      cases asked.symm.trans asked'
      exact .inl ⟨_, sums, rfl⟩
    | manaUntold asked' sums words =>
      cases asked.symm.trans asked'
      exact .inr ⟨_, sums, ⟨_, words⟩, rfl⟩

theorem applyGold_stops_iff {delta : Int} (asked : effect.gold = some delta) :
    Fails (applyGold delta) stage left ↔ effect.Stops stage.state .gold left := by
  rw [applyGold_fails_iff]
  constructor
  · rintro ⟨⟨fault, words⟩, rfl⟩
    exact .goldUntold asked words
  · intro stops
    cases stops with
    | goldUntold asked' words =>
      cases asked.symm.trans asked'
      exact ⟨⟨_, words⟩, rfl⟩

theorem applyExperience_stops_iff {delta : Number} (asked : effect.experience = some delta) :
    Fails (applyExperience delta) stage left ↔ effect.Stops stage.state .experience left := by
  rw [applyExperience_fails_iff]
  constructor
  · rintro (⟨fault, sums, rfl⟩ |
      ⟨sum, sums, ⟨fault, ranks⟩ | ⟨level, ranks, fault, words⟩, rfl⟩)
    · exact .experienceUnsummed asked sums
    · exact .experienceUnranked asked sums ranks
    · exact .experienceUntold asked sums ranks words
  · intro stops
    cases stops with
    | experienceUnsummed asked' sums =>
      cases asked.symm.trans asked'
      exact .inl ⟨_, sums, rfl⟩
    | experienceUnranked asked' sums ranks =>
      cases asked.symm.trans asked'
      exact .inr ⟨_, sums, .inl ⟨_, ranks⟩, rfl⟩
    | experienceUntold asked' sums ranks words =>
      cases asked.symm.trans asked'
      exact .inr ⟨_, sums, .inr ⟨_, ranks, _, words⟩, rfl⟩

theorem applyAttributes_stops_iff :
    Fails (applyAttributes effect.attributes) stage left ↔
      effect.Stops stage.state .attributes left := by
  rw [applyAttributes_fails_iff]
  constructor
  · rintro ⟨⟨fault, words⟩, rfl⟩
    exact .attributesUntold words
  · intro stops
    cases stops with
    | attributesUntold words => exact ⟨⟨_, words⟩, rfl⟩

theorem applyAddItems_stops_iff (asked : effect.addItems ≠ []) :
    Fails (applyAddItems effect.addItems) stage left ↔ effect.Stops stage.state .addItems left := by
  rw [applyAddItems_fails_iff]
  constructor
  · rintro ⟨room, ⟨fault, stuck⟩ | ⟨put, fault, names⟩, rfl⟩
    · exact .addedUnstacked asked room stuck
    · exact .addedUnnamed asked room put names
  · intro stops
    cases stops with
    | addedUnstacked _ room stuck => exact ⟨room, .inl ⟨_, stuck⟩, rfl⟩
    | addedUnnamed _ room put names => exact ⟨room, .inr ⟨put, _, names⟩, rfl⟩

theorem applyRemoveItems_stops_iff (asked : effect.removeItems ≠ []) :
    Fails (applyRemoveItems effect.removeItems) stage left ↔
      effect.Stops stage.state .removeItems left := by
  rw [applyRemoveItems_fails_iff]
  constructor
  · rintro ⟨covered, ⟨fault, names⟩, rfl⟩
    exact .removedUnnamed asked covered names
  · intro stops
    cases stops with
    | removedUnnamed _ covered names => exact ⟨covered, ⟨_, names⟩, rfl⟩

theorem IsPart.fails_iff {category : Category} {part : Action Outcome}
    (h : effect.IsPart category part) :
    Fails part stage left ↔ effect.Stops stage.state category left := by
  have never {category : Category} {part : Action Outcome} (delivers : Delivers Anything part)
      (none : ∀ before left, ¬ effect.Stops before category left) :
      Fails part stage left ↔ effect.Stops stage.state category left :=
    iff_of_false (Fails.not_of_delivers delivers) (none _ _)
  cases h with
  | health asked => exact applyHealth_stops_iff asked
  | mana asked => exact applyMana_stops_iff asked
  | gold asked => exact applyGold_stops_iff asked
  | experience asked => exact applyExperience_stops_iff asked
  | attributes => exact applyAttributes_stops_iff
  | addItems asked => exact applyAddItems_stops_iff asked
  | removeItems asked => exact applyRemoveItems_stops_iff asked
  | flags => exact never (applyFlags_delivers _) fun _ _ stops => nomatch stops
  | relationships =>
    exact never (applyRelationships_delivers _) fun _ _ stops => nomatch stops
  | sound _ =>
    refine never (.bind delivers_state fun _ _ => ?_) fun _ _ stops => nomatch stops
    exact applyCue_delivers _ _ _ _ _ _
  | music _ =>
    refine never (.bind delivers_state fun _ _ => ?_) fun _ _ stops => nomatch stops
    exact applyCue_delivers _ _ _ _ _ _
  | custom _ => exact never (custom_delivers _) fun _ _ stops => nomatch stops
  | events => exact never (applyEvents_delivers _) fun _ _ stops => nomatch stops

/-! ## Category by category -/

variable {category : Category}

theorem Stops.asks {before : GameState} (h : effect.Stops before category left) :
    effect.asks category = true := by
  have filled {α : Type} {l : List α} (asked : l ≠ []) : (!l.isEmpty) = true := by
    simpa using asked
  have given {α : Type} {o : Option α} {a : α} (asked : o = some a) : o.isSome = true := by
    rw [asked]
    rfl
  cases h with
  | healthUnsummed asked _ => exact given asked
  | healthUnweighed asked _ _ => exact given asked
  | healthUntold asked _ _ _ => exact given asked
  | manaUnsummed asked _ => exact given asked
  | manaUntold asked _ _ => exact given asked
  | goldUntold asked _ => exact given asked
  | experienceUnsummed asked _ => exact given asked
  | experienceUnranked asked _ _ => exact given asked
  | experienceUntold asked _ _ _ => exact given asked
  | attributesUntold words =>
    refine filled fun none => ?_
    rw [attributeWords, none] at words
    cases words
  | addedUnstacked asked _ _ => exact filled asked
  | addedUnnamed asked _ _ _ => exact filled asked
  | removedUnnamed asked _ _ => exact filled asked

theorem perform_fails_iff {part : Action Outcome} :
    Fails (perform part) stage left ↔ Fails part stage left :=
  Fails.bind_iff_left fun _ => .bind (delivers_publish _) fun _ _ => .pure trivial

theorem inCategory_fails_iff :
    Fails (effect.inCategory category) stage left ↔ effect.Stops stage.state category left := by
  by_cases isCustom : category = .custom
  · subst isCustom
    refine iff_of_false (Fails.not_of_delivers ?_) fun stops => nomatch stops
    rw [inCategory_custom]
    refine .mapM _ fun custom => .bind (custom_delivers custom) fun _ _ => ?_
    exact .bind (delivers_publish _) fun _ _ => .pure trivial
  · rcases partsOf_of_ne_custom isCustom with ⟨asksNot, none⟩ | ⟨-, part, alone, isPart⟩
    · rw [inCategory, none]
      refine iff_of_false (Fails.not_pure _) fun stops => ?_
      rw [stops.asks] at asksNot
      cases asksNot
    · rw [inCategory, alone, List.mapM_cons, ← isPart.fails_iff, ← perform_fails_iff]
      exact Fails.bind_iff_left fun _ => .pure trivial

/-- A category is begun on a stage, after those before it. -/
def Reaches (effect : Effect) (stage : Stage) (category : Category) (middle : Stage) : Prop :=
  ∃ front back told, Category.all = front ++ category :: back ∧
    outcome (front.mapM effect.inCategory) stage = (.ok told, middle)

/-- A category is begun on a stage and fails. -/
def StopsAt (effect : Effect) (stage : Stage) (category : Category) (middle : Stage) : Prop :=
  effect.Reaches stage category middle ∧
    ∃ fault last, outcome (effect.inCategory category) middle = (.error fault, last)

theorem process_fails_iff :
    Fails effect.process stage left ↔
      ∃ category middle, effect.Reaches stage category middle ∧
        Fails (effect.inCategory category) middle left := by
  have finishes : ∀ outcomes, Delivers Anything (do
      finish outcomes false
      pure outcomes) := fun outcomes stage => ⟨outcomes, _, rfl, trivial⟩
  have flattened : ∀ grouped : List (List Outcome),
      Delivers Anything (pure grouped.flatten : Action (List Outcome)) := fun _ => .pure trivial
  rw [process, Fails.bind_iff_left finishes, apply_eq, Fails.bind_iff_left flattened, Fails.mapM_iff]
  constructor
  · rintro ⟨front, category, back, told, middle, split, done, fails⟩
    exact ⟨category, middle, ⟨front, back, told, split, done⟩, fails⟩
  · rintro ⟨category, middle, ⟨front, back, told, split, done⟩, fails⟩
    exact ⟨front, category, back, told, middle, split, done, fails⟩

/-! ## Half a category -/

/-- The fields that a category is about are the same after as before. -/
def Category.Intact (before after : GameState) : Category → Prop
  | .health => after.player.health = before.player.health
  | .mana => after.player.mana = before.player.mana
  | .gold => after.player.gold = before.player.gold
  | .experience =>
    after.player.experience = before.player.experience ∧
      after.player.level = before.player.level ∧
      after.player.health = before.player.health ∧ after.player.mana = before.player.mana
  | .attributes => after.player.attributes = before.player.attributes
  | .flags => after.flags = before.flags
  | .addItems | .removeItems => after.inventory = before.inventory
  | .relationships => after.relationships = before.relationships
  | .custom => after.flags = before.flags ∧ after.timedEffects = before.timedEffects
  | .sound | .music | .events => True

theorem Category.Intact.refl (state : GameState) (category : Category) :
    category.Intact state state := by
  cases category <;> simp [Intact]

/-- Nothing but the fields of the category was written. -/
theorem Stops.intact_iff {before : GameState} (h : effect.Stops before category left) :
    category.Intact before left ↔ left = before := by
  refine ⟨fun same => ?_, fun same => same ▸ .refl before category⟩
  have healed {health : Int} (same : health = before.player.health) :
      { before with player := { before.player with health } } = before := by
    rw [same]
  have charged {mana : Int} (same : mana = before.player.mana) :
      { before with player := { before.player with mana } } = before := by
    rw [same]
  have paid {gold : Int} (same : gold = before.player.gold) :
      { before with player := { before.player with gold } } = before := by
    rw [same]
  have trained {attributes : OrderedMap Int} (same : attributes = before.player.attributes) :
      { before with player := { before.player with attributes } } = before := by
    rw [same]
  have learned {experience : Number} (same : experience = before.player.experience) :
      { before with player := { before.player with experience } } = before := by
    rw [same]
  have held {items : List Item} (same : items = before.inventory) : before.holding items = before := by
    rw [same]
    rfl
  cases h with
  | healthUnsummed _ _ => rfl
  | healthUnweighed _ _ _ => exact healed same
  | healthUntold _ _ _ _ => exact healed same
  | manaUnsummed _ _ => rfl
  | manaUntold _ _ _ => exact charged same
  | goldUntold _ _ => exact paid same
  | experienceUnsummed _ _ => rfl
  | experienceUnranked _ _ _ => exact learned same.1
  | experienceUntold _ _ _ _ => exact learned same.1
  | attributesUntold _ => exact trained same
  | addedUnstacked _ _ _ => exact held same
  | addedUnnamed _ _ _ _ => exact held same
  | removedUnnamed _ _ _ => exact held same

/-- A bundle that fails stops in a category, in one of the ways above and with what that leaves; the
fields of the category are then as they were exactly if the whole state is. -/
theorem stopped_intact_iff {fault : Fault} {last : Stage}
    (failed : outcome effect.process stage = (.error fault, last)) :
    (∃ category middle, effect.StopsAt stage category middle) ∧
      ∀ category middle, effect.StopsAt stage category middle →
        (∀ left, effect.Stops middle.state category left ↔ left = last.state) ∧
        (category.Intact middle.state last.state ↔ last.state = middle.state) := by
  have leaves : ∀ left, Fails effect.process stage left ↔ left = last.state := fun _ =>
    Fails.iff_of_outcome failed
  constructor
  · obtain ⟨category, middle, reached, fault, own, ends, -⟩ :=
      process_fails_iff.1 ((leaves _).2 rfl)
    exact ⟨category, middle, reached, fault, own, ends⟩
  · rintro category middle ⟨reached, fault, own, ends⟩
    have same : own.state = last.state :=
      (leaves _).1 (process_fails_iff.2 ⟨category, middle, reached, fault, own, ends, rfl⟩)
    have stops : ∀ left, effect.Stops middle.state category left ↔ left = last.state := by
      intro left
      rw [← inCategory_fails_iff, Fails.iff_of_outcome ends, same]
    exact ⟨stops, ((stops _).2 rfl).intact_iff⟩

/-- Healing by nothing. -/
def balm : Effect where
  health := some 0

/-- Someone whose health is never in danger, the maximum being beyond all doubles. -/
def titan : Stage :=
  { hall with state := { hall.state with player :=
    { hall.state.player with maxHealth := Int.pow 10 400 } } }

theorem titan_stays_whole :
    ∃ fault last, outcome balm.process titan = (.error fault, last) ∧
      balm.StopsAt titan .health titan ∧ balm.Stops titan.state .health last.state ∧
      Category.health.Intact titan.state last.state ∧ last.state = titan.state := by
  have fails : (fault? balm.process titan).isSome = true := by decide +kernel
  have stuck : (fault? (balm.inCategory .health) titan).isSome = true := by decide +kernel
  obtain ⟨fault, failed⟩ := Option.isSome_iff_exists.1 fails
  obtain ⟨own, failing⟩ := Option.isSome_iff_exists.1 stuck
  have ends := outcome_of_fault? failed
  have stops : balm.StopsAt titan .health titan :=
    ⟨⟨[], _, [], rfl, rfl⟩, own, _, outcome_of_fault? failing⟩
  have same : Category.health.Intact titan.state (after balm.process titan).state := by
    change _ = _
    decide +kernel
  obtain ⟨ways, intact⟩ := (stopped_intact_iff ends).2 .health titan stops
  exact ⟨fault, _, ends, stops, (ways _).2 rfl, same, intact.1 same⟩

/-- More experience than any level can be worth. -/
def apotheosis : Effect where
  experience := some (.int (Int.pow 10 400))

theorem apotheosis_half_applied :
    outcome (ofDocument (.object [("experience", .int (Int.pow 10 400))])) 0 = (.ok apotheosis, 0) ∧
      apotheosis.StopsAt hall .experience hall ∧
      ¬ Category.experience.Intact hall.state (after apotheosis.process hall).state := by
  have stuck : (fault? (apotheosis.inCategory .experience) hall).isSome = true := by decide +kernel
  obtain ⟨fault, failing⟩ := Option.isSome_iff_exists.1 stuck
  have reached : apotheosis.Reaches hall .experience hall :=
    ⟨[.health, .mana, .gold], _, [[], [], []], rfl, rfl⟩
  have written : (after apotheosis.process hall).state.player.experience ≠
      hall.state.player.experience := by decide +kernel
  exact ⟨rfl, ⟨reached, fault, _, outcome_of_fault? failing⟩, fun same => written same.1⟩

end Effect

end InteractiveFiction
