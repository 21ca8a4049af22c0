import InteractiveFiction.Proofs.Effect.Backdrop
import InteractiveFiction.Proofs.Inventory.Ends
import InteractiveFiction.Proofs.Simulation

/-!
How the actions of a bundle may change a state, one relation at a time.

`Moving rel action`: wherever `action` ends, also in failure, the state it leaves is related by `rel`
to the one it started from.  A relation that holds between a state and itself and goes on from state
to state holds so of every action, once it holds of the changes that the action is made of: other
items, other flags, a timed effect, a relationship.
-/

set_option autoImplicit false

namespace InteractiveFiction

open Course

/-- What relates states relates stages. -/
def Stage.Relates (rel : GameState → GameState → Prop) (before after : Stage) : Prop :=
  rel before.state after.state

namespace Stage.Relates

variable {rel : GameState → GameState → Prop}

instance [Std.Refl rel] : Std.Refl (Relates rel) :=
  ⟨fun stage => Std.Refl.refl stage.state⟩

instance [Trans rel rel rel] : Trans (Relates rel) (Relates rel) (Relates rel) :=
  ⟨fun {a b c} (h : rel a.state b.state) (h' : rel b.state c.state) =>
    (Trans.trans h h' : rel a.state c.state)⟩

end Stage.Relates

abbrev Moving {α : Type} (rel : GameState → GameState → Prop) (action : Action α) : Prop :=
  Leads (Stage.Relates rel) action

/-- What is announced after a part changes nothing more. -/
theorem Effect.state_after_perform (part : Action Outcome) (stage : Stage) :
    (after (perform part) stage).state = (after part stage).state := by
  rw [perform, after, outcome_bind, outcome_eq part stage]
  cases result part stage <;> rfl

/-- What is told of items after they were added changes nothing more. -/
theorem Effect.state_after_applyAddItems (items : List Item) (stage : Stage) :
    (after (applyAddItems items) stage).state =
      (after (Inventory.addItems items) stage).state := by
  rw [applyAddItems, after, outcome_bind, outcome_eq (Inventory.addItems items) stage]
  rcases result (Inventory.addItems items) stage with fault | _ | _
  · rfl
  · rfl
  · rw [after]
    cases told : listed (items.map Item.name) <;> rfl

section Closed

variable {α : Type} {rel : GameState → GameState → Prop} [Std.Refl rel]

/-! ## Primitive actions -/

namespace Action

theorem moving_of_same {action : Action α} (h : ∀ stage, (after action stage).state = stage.state) :
    Moving rel action := by
  intro stage
  change rel stage.state (after action stage).state
  rw [h stage]
  exact Std.Refl.refl stage.state

theorem moving_state : Moving rel Action.state :=
  moving_of_same fun _ => rfl

theorem moving_now : Moving rel Action.now :=
  moving_of_same fun _ => rfl

theorem moving_lift (r : Result α) : Moving rel (liftM r : Action α) :=
  moving_of_same fun stage => by rw [after, outcome_lift]

/-- What is lifted before an action tells of what follows. -/
theorem moving_bind_lift {β : Type} {gives : β → Prop} {r : Result β} {f : β → Action α}
    (given : r.Gives gives) (next : ∀ b, gives b → Moving rel (f b)) :
    Moving rel ((liftM r : Action β) >>= f) := by
  intro stage
  rw [after, outcome_bind, outcome_lift]
  cases r with
  | error fault => exact Std.Refl.refl stage
  | ok b => exact next b (given b rfl) stage

omit [Std.Refl rel] in
theorem moving_modifyState {change : GameState → GameState} (h : ∀ state, rel state (change state)) :
    Moving rel (Action.modifyState change) :=
  .modify fun stage => h stage.state

theorem moving_publish (event : Event) : Moving rel (Action.publish event) :=
  moving_of_same fun _ => rfl

theorem moving_play (sink : AudioSink) (call : AudioCall) : Moving rel (Action.play sink call) :=
  moving_of_same fun _ => rfl

end Action

variable [Trans rel rel rel]

open InteractiveFiction.Action

/-! ## Items -/

namespace Inventory

variable (holding : ∀ (state : GameState) items, rel state (state.holding items))

include holding

theorem insertItem_moving (item : Item) : Moving rel (insertItem item) :=
  .bind moving_state fun _ => .bind (moving_lift _) fun _ =>
    .bind (moving_modifyState fun state => holding state _) fun _ => moving_publish _

omit [Std.Refl rel] [Trans rel rel rel] in
theorem takeItem_moving (id : String) (quantity : Int) : Moving rel (takeItem id quantity) := by
  intro stage
  obtain ⟨stage', takes, left⟩ := takeItem_ends id quantity stage
  change rel stage.state (outcome (takeItem id quantity) stage).2.state
  rw [takes, left]
  exact holding _ _

theorem addItems_moving (items : List Item) : Moving rel (addItems items) := by
  unfold addItems
  refine .bind moving_state fun state => .branch ?_ ?_
  · refine .bind (.forIn items _ fun item _ _ => ?_) fun _ => .pure true
    exact .bind (insertItem_moving holding item) fun _ => .pure _
  · exact .bind (moving_publish _) fun _ => .pure false

theorem removeItems_moving (removals : List ItemRemoval) : Moving rel (removeItems removals) := by
  unfold removeItems
  refine .bind moving_state fun state => .branch ?_ (.pure false)
  refine .bind (.forIn _ _ fun entry _ _ => ?_) fun _ => .pure true
  exact .bind (takeItem_moving holding entry.1 entry.2) fun _ => .pure _

end Inventory

namespace Effect

omit [Std.Refl rel] [Trans rel rel rel] in
theorem perform_moving {part : Action Outcome} (h : Moving rel part) :
    Moving rel (perform part) := by
  intro stage
  change rel _ _
  rw [state_after_perform]
  exact h stage

/-- Adding items has done what adding them to the inventory does. -/
theorem applyAddItems_moving_of {items : List Item} (adds : Moving rel (Inventory.addItems items)) :
    Moving rel (applyAddItems items) :=
  .bind adds fun _ => .bind moving_now fun _ =>
    .branch (.bind (moving_lift _) fun _ => .pure _) (.pure _)

theorem applyRemoveItems_moving_of {removals : List ItemRemoval}
    (removes : Moving rel (Inventory.removeItems removals)) :
    Moving rel (applyRemoveItems removals) :=
  .bind removes fun _ => .bind moving_now fun _ =>
    .branch (.bind (moving_lift _) fun _ => .pure _) (.pure _)

end Effect

/-! ## Flags and timed effects -/

theorem Flags.eq_insert_of_set {flags flags' : Flags} {key : String} {value : Document}
    (set : flags.set (.text key) value = .ok flags') :
    ∃ flag, flags' = flags.insert key flag := by
  obtain ⟨⟨name, flag⟩, checked, inserted⟩ := Result.ok_of_bind set
  cases inserted
  unfold FlagValue.check at checked
  dsimp only at checked
  split at checked
  · cases checked
  · split at checked
    · cases checked
      exact ⟨flag, rfl⟩
    · cases checked

theorem Document.written_gives (d : Document) :
    Result.Gives (fun text => text = d.display) d.written := by
  unfold Document.written
  split
  · exact .pure rfl
  · exact .throw _

namespace CustomEffect

/-- The type of the curse or the blessing that a custom effect casts. -/
def timedType (custom : CustomEffect) : String :=
  (Document.orElse (some (custom.param (custom.type ++ "Type"))) "unknown").display

/-- The key under which that is held and flagged. -/
def timedKey (custom : CustomEffect) : String :=
  custom.type ++ "_" ++ custom.timedType

/-- The keys of the timed effects that a custom effect may write. -/
def timedKeys (custom : CustomEffect) : List String :=
  match custom.type with
  | "curse" | "blessing" => [custom.timedKey]
  | _ => []

/-- The keys of the flags that a custom effect may write. -/
def flagKeys (custom : CustomEffect) : List String :=
  match custom.type with
  | "transform" => ["transformed_form"]
  | "summon" => ["summoned_creature"]
  | _ => custom.timedKeys

theorem timedEffect_keyed (custom : CustomEffect) (now : Instant) :
    Result.Gives (fun timed => timed.key = custom.timedKey) (custom.timedEffect now) := by
  refine .bind (Document.written_gives _) fun type isType => ?_
  refine .bind (.anything _) fun duration _ => .bind (.anything _) fun effects _ => ?_
  split
  · exact .of_throw _ _
  · refine .pure ?_
    rw [isType]
    rfl

section Flags

omit [Trans rel rel rel] in
theorem setFlag_moving {key : String} (flagged : ∀ (state : GameState) flag,
    rel state { state with flags := state.flags.insert key flag }) (value : Document) :
    Moving rel (setFlag key value) := by
  intro stage
  change rel stage.state _
  rw [setFlag, after, outcome_bind_of_ok (outcome_state stage), outcome_bind, outcome_lift]
  cases sets : stage.state.flags.set (.text key) value with
  | error fault => exact Std.Refl.refl stage.state
  | ok flags =>
    obtain ⟨flag, rfl⟩ := Flags.eq_insert_of_set sets
    exact flagged stage.state flag

omit [Trans rel rel rel] in
theorem outcome_moving (description : String) (metadata : Fields) :
    Moving rel (outcome description metadata) :=
  moving_of_same fun _ => rfl

theorem cast_moving {custom : CustomEffect}
    (flagged : ∀ (state : GameState) flag,
      rel state { state with flags := state.flags.insert custom.timedKey flag })
    (timed : ∀ (state : GameState) (effect : TimedEffect), effect.key = custom.timedKey →
      rel state { state with timedEffects := state.timedEffects.insert effect.key effect })
    (verb : String) : Moving rel (custom.cast verb) := by
  refine .bind moving_now fun now => ?_
  refine moving_bind_lift (custom.timedEffect_keyed now) fun effect keyed => ?_
  refine .bind (moving_modifyState fun state => timed state effect keyed) fun _ => ?_
  refine .bind (setFlag_moving (fun state flag => ?_) _) fun _ => outcome_moving _ _
  rw [keyed]
  exact flagged state flag

variable {custom : CustomEffect}
  (flagged : ∀ (state : GameState), ∀ key ∈ custom.flagKeys, ∀ flag,
    rel state { state with flags := state.flags.insert key flag })
  (timed : ∀ (state : GameState) (effect : TimedEffect), effect.key ∈ custom.timedKeys →
    rel state { state with timedEffects := state.timedEffects.insert effect.key effect })

include flagged timed

theorem act_moving : Moving rel custom.act := by
  have demand : ∀ key, Moving rel (liftM (custom.demand key) : Action _) := fun key =>
    moving_lift _
  have casts : custom.flagKeys = [custom.timedKey] → custom.timedKeys = [custom.timedKey] →
      ∀ verb, Moving rel (custom.cast verb) := by
    intro flags timeds
    refine cast_moving (fun state => flagged state _ ?_) fun state effect keyed => timed state _ ?_
    · rw [flags]
      exact List.mem_singleton_self _
    · rw [timeds, keyed]
      exact List.mem_singleton_self _
  unfold act
  split
  · exact .bind (demand _) fun target => .bind (moving_publish _) fun _ =>
      .bind (moving_lift _) fun _ => outcome_moving _ _
  · rename_i type
    refine .bind (demand _) fun form => .bind moving_state fun state => ?_
    refine .bind (setFlag_moving (fun state => flagged state _ ?_) _) fun _ => ?_
    · simp [flagKeys, type]
    · exact .bind (moving_lift _) fun _ => .bind (outcome_moving _ _) fun _ => .pure _
  · rename_i type
    refine .bind (demand _) fun creature => .bind (setFlag_moving (fun state => flagged state _ ?_) _)
      fun _ => .bind (moving_lift _) fun _ => outcome_moving _ _
    simp [flagKeys, type]
  · rename_i type
    exact casts (by simp [flagKeys, timedKeys, type]) (by simp [timedKeys, type]) _
  · rename_i type
    exact casts (by simp [flagKeys, timedKeys, type]) (by simp [timedKeys, type]) _
  · exact .throw _

theorem apply_moving : Moving rel custom.apply :=
  .tryCatch (act_moving flagged timed) fun _ => .bind moving_now fun _ => .pure _

end Flags

end CustomEffect

namespace Effect

theorem applyFlags_moving {flags : Flags} (flagged : ∀ state : GameState,
    rel state { state with flags := state.flags.setAll flags }) : Moving rel (applyFlags flags) :=
  .bind moving_state fun _ => .bind (moving_modifyState flagged)
    fun _ => .bind moving_now fun _ => .pure _

/-! ## Relationships, cues and events -/

section Relationships

theorem adjustRelationship_moving {character : String} (adjusted : ∀ (state : GameState) old delta,
    rel state { state with
      relationships := state.relationships.insert character (changedRelationship old delta) })
    (delta : Number) : Moving rel (adjustRelationship character delta) := by
  refine .bind moving_state fun state => ?_
  refine .bind (moving_modifyState fun state => adjusted state _ _) fun _ => ?_
  dsimp only
  split
  · exact .bind (moving_publish _) fun _ => .pure _
  · exact .pure _

theorem applyRelationships_moving {deltas : OrderedMap Int}
    (adjusted : ∀ (state : GameState), ∀ character ∈ deltas.keys, ∀ old delta,
      rel state { state with
        relationships := state.relationships.insert character (changedRelationship old delta) }) :
    Moving rel (applyRelationships deltas) := by
  refine .bind (.mapM _ fun entry mem => ?_) fun _ => .bind moving_now fun _ => .pure _
  have known : entry.1 ∈ deltas.keys := List.mem_map_of_mem mem
  refine .bind moving_state fun _ => .bind ?_ fun _ => .pure _
  exact adjustRelationship_moving (fun state => adjusted state _ known) _

end Relationships

theorem applyCue_moving (type muted played : String) (enabled : Document) (cue : AudioCue)
    (call : AudioCall) : Moving rel (applyCue type muted played enabled cue call) := by
  refine .bind moving_now fun now => .bind .get fun stage => ?_
  split
  · rename_i sink _
    refine .branch (.bind (moving_play sink call) fun complaint => ?_) (.pure _)
    cases complaint <;> exact .pure _
  · exact .pure _

theorem applySound_moving (cue : AudioCue) : Moving rel (applySound cue) :=
  .bind moving_state fun _ => applyCue_moving _ _ _ _ _ _

theorem applyMusic_moving (cue : AudioCue) : Moving rel (applyMusic cue) :=
  .bind moving_state fun _ => applyCue_moving _ _ _ _ _ _

theorem applyEvents_moving (names : List String) : Moving rel (applyEvents names) := by
  refine .bind moving_state fun state => .bind (.forIn names _ fun name _ _ => ?_) fun _ => ?_
  · exact .bind (moving_publish _) fun _ => .pure _
  · exact .bind moving_now fun _ => .pure _

theorem apply_moving {effect : Effect} (moves : ∀ part ∈ effect.parts, Moving rel part) :
    Moving rel effect.apply :=
  .mapM _ fun part mem => perform_moving (moves part mem)

/-- What all parts of a bundle are like the bundle is like, if closing it is. -/
theorem process_moving {effect : Effect} (moves : ∀ part ∈ effect.parts, Moving rel part)
    (touched : ∀ (state : GameState) now, rel state (state.touch now)) :
    Moving rel effect.process := by
  have closes : ∀ outcomes, Moving rel (finish outcomes false) := fun _ =>
    .bind moving_now fun now => .bind (moving_modifyState fun state => touched state now)
      fun _ => moving_publish _
  exact .bind (apply_moving moves) fun outcomes => .bind (closes outcomes) fun _ => .pure _

end Effect

end Closed

end InteractiveFiction
