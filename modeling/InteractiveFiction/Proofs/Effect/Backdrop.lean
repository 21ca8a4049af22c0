import InteractiveFiction.Effect.Expiry
import InteractiveFiction.Proofs.Effect.Categories
import InteractiveFiction.Proofs.Inventory.Backdrop

/-!
Bundles and the backdrop: applying a bundle leaves it alone and fails only by accident, and so does
the expiry of curses and blessings, which fails only when one is held under a key not its own.
-/

set_option autoImplicit false

namespace InteractiveFiction

open Course InteractiveFiction.Action

/-! ## Custom effects -/

namespace CustomEffect

/-- A custom effect may fail in any way before its failure becomes an outcome. -/
abbrev Anyhow : Fault → Prop := fun _ => True

theorem anyhow {α : Type} (r : Result α) : Result.FailsIn Anyhow r :=
  fun _ _ => trivial

theorem setFlag_confined (key : String) (value : Document) :
    Confined Stage.backdrop Anyhow (setFlag key value) := by
  refine .bind confined_state fun state => .bind (confined_lift (anyhow _)) fun flags => ?_
  exact confined_modifyState fun _ => rfl

theorem outcome_confined (description : String) (metadata : Fields) :
    Confined Stage.backdrop Anyhow (outcome description metadata) :=
  .bind confined_now fun _ => .pure _

theorem cast_confined (custom : CustomEffect) (verb : String) :
    Confined Stage.backdrop Anyhow (custom.cast verb) := by
  refine .bind confined_now fun now => .bind (confined_lift (anyhow _)) fun timed => ?_
  refine .bind (confined_modifyState fun _ => rfl) fun _ => ?_
  exact .bind (setFlag_confined _ _) fun _ => outcome_confined _ _

theorem act_confined (custom : CustomEffect) : Confined Stage.backdrop Anyhow custom.act := by
  have written : ∀ d : Document, Confined Stage.backdrop Anyhow (liftM d.written : Action _) :=
    fun d => confined_lift (anyhow _)
  have demand : ∀ key, Confined Stage.backdrop Anyhow (liftM (custom.demand key) : Action _) :=
    fun key => confined_lift (anyhow _)
  unfold act
  split
  · refine .bind (demand _) fun target => .bind (confined_publish rfl) fun _ => ?_
    exact .bind (written target) fun _ => outcome_confined _ _
  · refine .bind (demand _) fun form => .bind confined_state fun state => ?_
    refine .bind (setFlag_confined _ _) fun _ => .bind (written form) fun _ => ?_
    exact .bind (outcome_confined _ _) fun _ => .pure _
  · exact .bind (demand _) fun creature => .bind (setFlag_confined _ _) fun _ =>
      .bind (written creature) fun _ => outcome_confined _ _
  · exact cast_confined _ _
  · exact cast_confined _ _
  · exact .throw trivial

theorem apply_inFront (custom : CustomEffect) : InFront custom.apply :=
  .tryCatch custom.act_confined fun _ _ => .bind confined_now fun _ => .pure _

end CustomEffect

/-! ## Parts of a bundle -/

theorem levelFor_failsByNumber (experience : Number) : Result.FailsByNumber (levelFor experience) :=
  .bind (Number.dividedBy_failsByNumber _ _) fun _ =>
    .bind (Number.floor_failsByNumber _) fun _ => .pure _

theorem adjustRelationship_inFront (character : String) (delta : Number) :
    InFront (adjustRelationship character delta) := by
  refine .bind confined_state fun state => .bind (confined_modifyState fun _ => rfl) fun _ => ?_
  dsimp only
  split
  · exact .bind (confined_publish rfl) fun _ => .pure _
  · exact .pure _

namespace Effect

theorem changed_failsByNumber (old : Int) (delta : Number) (limit : Int) :
    Result.FailsByNumber (changed old delta limit) :=
  .bind (Number.plus_failsByNumber _ _) fun _ => Number.toInt_failsByNumber _

theorem isCritical_failsByNumber (health maxHealth : Int) :
    Result.FailsByNumber (isCritical health maxHealth) :=
  .bind (Number.toFloat?_failsByNumber _) fun _ => .pure _

theorem inWords_failsByNumber (gain loss noun : String) (isGain : Bool) (old new : Number) :
    Result.FailsByNumber (inWords gain loss noun isGain old new) := by
  unfold inWords
  split
  · exact .bind (Number.written_failsByNumber _) fun _ => .pure _
  · exact .bind (Number.written_failsByNumber _) fun _ => .pure _

theorem signed_failsByNumber (n : Int) : Result.FailsByNumber (signed n) :=
  .bind (Number.written_failsByNumber _) fun _ => .pure _

theorem changesOf_failsByNumber (known : List (String × Int)) :
    Result.FailsByNumber (known.mapM fun (name, delta) => do pure s!"{name} {← signed delta}" :
      Result (List String)) :=
  .mapM fun _ _ => .bind (signed_failsByNumber _) fun _ => .pure _

theorem changeOutcome_inFront (type description : String) (old new : Number) (metadata : Fields) :
    InFront (changeOutcome type description old new metadata) :=
  .bind confined_now fun _ => .pure _

/-- A change is told in words, which may fail, and its outcome is given. -/
theorem toldChange_inFront (type gain loss noun : String) (isGain : Bool) (old new : Number)
    (metadata : Fields) : InFront (do
      let description ← inWords gain loss noun isGain old new
      changeOutcome type description old new metadata) :=
  .bind (confined_lift (inWords_failsByNumber _ _ _ _ _ _).slips) fun _ =>
    changeOutcome_inFront _ _ _ _ _

theorem applyHealth_inFront (delta : Number) : InFront (applyHealth delta) := by
  refine .bind confined_state fun state => ?_
  refine .bind (confined_lift (changed_failsByNumber _ _ _).slips) fun new => ?_
  refine .bind (confined_modifyPlayer _) fun _ => ?_
  refine .bind (confined_lift (isCritical_failsByNumber _ _).slips) fun critical => ?_
  have announce : ∀ (p : Prop) [Decidable p] (event : Event) (rest : Unit → Action Outcome),
      event.isOfBundle = true → (∀ u, InFront (rest u)) →
      InFront (if p then Action.publish event >>= rest else rest ()) :=
    fun _ _ _ _ own tail => .branch (.bind (confined_publish own) tail) (tail ())
  exact announce _ _ _ rfl fun _ => announce _ _ _ rfl fun _ => toldChange_inFront _ _ _ _ _ _ _ _

theorem applyMana_inFront (delta : Number) : InFront (applyMana delta) :=
  .bind confined_state fun _ => .bind (confined_lift (changed_failsByNumber _ _ _).slips) fun _ =>
    .bind (confined_modifyPlayer _) fun _ => toldChange_inFront _ _ _ _ _ _ _ _

theorem applyGold_inFront (delta : Int) : InFront (applyGold delta) :=
  .bind confined_state fun _ => .bind (confined_modifyPlayer _) fun _ =>
    toldChange_inFront _ _ _ _ _ _ _ _

theorem applyExperience_inFront (delta : Number) : InFront (applyExperience delta) := by
  refine .bind confined_state fun state => ?_
  refine .bind (confined_lift (Number.plus_failsByNumber _ _).slips) fun sum => ?_
  refine .bind (confined_modifyPlayer _) fun _ => ?_
  refine .bind (confined_lift (levelFor_failsByNumber _).slips) fun level => ?_
  refine .bind (confined_lift (inWords_failsByNumber _ _ _ _ _ _).slips) fun told => .branch ?_ ?_
  · refine .bind (confined_modifyPlayer _) fun _ => .bind (confined_publish rfl) fun _ => ?_
    exact changeOutcome_inFront _ _ _ _ _
  · exact changeOutcome_inFront _ _ _ _ _

theorem applyAttributes_inFront (deltas : OrderedMap Int) : InFront (applyAttributes deltas) :=
  .bind confined_state fun _ => .bind (confined_modifyPlayer _) fun _ =>
    .bind (confined_lift (changesOf_failsByNumber _).slips) fun _ =>
      .bind confined_now fun _ => .pure _

theorem applyFlags_inFront (flags : Flags) : InFront (applyFlags flags) :=
  .bind confined_state fun _ => .bind (confined_modifyState fun _ => rfl) fun _ =>
    .bind confined_now fun _ => .pure _

theorem applyAddItems_inFront (items : List Item) : InFront (applyAddItems items) := by
  refine .bind (Inventory.addItems_inFront items) fun added => .bind confined_now fun now => ?_
  exact .branch (.bind (confined_lift (Document.joined_slips _ _)) fun _ => .pure _) (.pure _)

theorem applyRemoveItems_inFront (removals : List ItemRemoval) :
    InFront (applyRemoveItems removals) := by
  refine .bind (Inventory.removeItems_inFront removals) fun removed => ?_
  refine .bind confined_now fun now => .branch ?_ (.pure _)
  exact .bind (confined_lift (Document.joined_slips _ _)) fun _ => .pure _

theorem applyRelationships_inFront (deltas : OrderedMap Int) :
    InFront (applyRelationships deltas) := by
  refine .bind (.mapM _ fun entry _ => ?_) fun _ => .bind confined_now fun _ => .pure _
  exact .bind confined_state fun _ => .bind (adjustRelationship_inFront _ _) fun _ => .pure _

theorem applyCue_inFront (type muted played : String) (enabled : Document) (cue : AudioCue)
    (call : AudioCall) : InFront (applyCue type muted played enabled cue call) := by
  refine .bind confined_now fun now => .bind .get fun stage => ?_
  split
  · rename_i sink _
    refine .branch (.bind (confined_play sink call) fun complaint => ?_) (.pure _)
    cases complaint <;> exact .pure _
  · exact .pure _

theorem applySound_inFront (cue : AudioCue) : InFront (applySound cue) :=
  .bind confined_state fun _ => applyCue_inFront _ _ _ _ _ _

theorem applyMusic_inFront (cue : AudioCue) : InFront (applyMusic cue) :=
  .bind confined_state fun _ => applyCue_inFront _ _ _ _ _ _

theorem applyEvents_inFront (names : List String) : InFront (applyEvents names) := by
  refine .bind confined_state fun state => .bind (.forIn names _ fun name _ _ => ?_) fun _ => ?_
  · exact .bind (confined_publish rfl) fun _ => .pure _
  · exact .bind confined_now fun _ => .pure _

/-! ## Bundles -/

/-- What holds of each kind of part, and of what a bundle does with its flags, its items and its
custom effects, holds of all its parts. -/
theorem forall_mem_parts {P : Action Outcome → Prop} (effect : Effect)
    (health : ∀ delta, P (applyHealth delta)) (mana : ∀ delta, P (applyMana delta))
    (gold : ∀ delta, P (applyGold delta)) (experience : ∀ delta, P (applyExperience delta))
    (attributes : ∀ deltas, P (applyAttributes deltas)) (flags : P (applyFlags effect.flags))
    (addItems : P (applyAddItems effect.addItems))
    (removeItems : P (applyRemoveItems effect.removeItems))
    (relationships : ∀ deltas, P (applyRelationships deltas)) (sound : ∀ cue, P (applySound cue))
    (music : ∀ cue, P (applyMusic cue))
    (custom : ∀ custom ∈ effect.custom, P (CustomEffect.apply custom))
    (events : ∀ names, P (applyEvents names)) : ∀ part ∈ effect.parts, P part := by
  refine forall_parts_of_isPart fun category part isPart => ?_
  cases isPart with
  | health _ => exact health _
  | mana _ => exact mana _
  | gold _ => exact gold _
  | experience _ => exact experience _
  | attributes => exact attributes _
  | flags => exact flags
  | addItems _ => exact addItems
  | removeItems _ => exact removeItems
  | relationships => exact relationships _
  | sound _ => exact sound _
  | music _ => exact music _
  | custom among => exact custom _ among
  | events => exact events _

theorem parts_inFront (effect : Effect) : ∀ part ∈ effect.parts, InFront part :=
  forall_mem_parts effect applyHealth_inFront applyMana_inFront applyGold_inFront
    applyExperience_inFront applyAttributes_inFront (applyFlags_inFront _) (applyAddItems_inFront _)
    (applyRemoveItems_inFront _) applyRelationships_inFront applySound_inFront applyMusic_inFront
    (fun custom _ => custom.apply_inFront) applyEvents_inFront

theorem perform_inFront {part : Action Outcome} (h : InFront part) : InFront (perform part) :=
  .bind h fun _ => .bind (confined_publish rfl) fun _ => .pure _

theorem apply_inFront (effect : Effect) : InFront effect.apply :=
  .mapM _ fun _ mem => perform_inFront (effect.parts_inFront _ mem)

theorem finish_inFront (outcomes : List Outcome) (queued : Bool) :
    InFront (finish outcomes queued) :=
  .bind confined_now fun _ => .bind (confined_modifyState fun _ => rfl) fun _ =>
    confined_publish rfl

theorem process_inFront (effect : Effect) : InFront effect.process :=
  .bind effect.apply_inFront fun _ => .bind (finish_inFront _ _) fun _ => .pure _

end Effect

/-! ## Expiry -/

/-- The state without the timed effect of a key and without its flag. -/
def GameState.shed (state : GameState) (key : String) : GameState :=
  { state with timedEffects := state.timedEffects.erase key, flags := state.flags.erase key }

namespace TimedEffect

theorem outcome_lapse (effect : TimedEffect) (stage : Stage) :
    outcome effect.lapse stage =
      if stage.state.timedEffects.contains effect.key then
        (.ok (), { stage with state := stage.state.shed effect.key })
      else (.error (.missingKey effect.key), stage) := by
  unfold lapse
  rw [outcome_bind_of_ok (outcome_state stage)]
  split <;> rfl

theorem lapse_inFront (effect : TimedEffect) : InFront effect.lapse := by
  refine .intro fun stage => ?_
  rw [outcome_lapse]
  split
  · exact ⟨rfl, .ok ()⟩
  · exact ⟨rfl, .throw rfl⟩

theorem expire_inFront (now : Instant) : InFront (expire now) := by
  refine .bind confined_state fun state => .bind (.forIn _ _ fun effect _ _ => ?_) fun _ => .pure _
  exact .bind effect.lapse_inFront fun _ => .bind (confined_publish rfl) fun _ => .pure _

end TimedEffect

end InteractiveFiction
