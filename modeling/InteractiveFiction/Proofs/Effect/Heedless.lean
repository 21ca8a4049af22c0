import InteractiveFiction.Effect.Application
import InteractiveFiction.Inventory.Use
import InteractiveFiction.Proofs.Effect.Backdrop
import InteractiveFiction.Proofs.Heedless

/-!
The parts of a bundle take no heed of what was published before, and none of them closes a bundle:
a bundle does the same wherever it is applied.

All but sounds and music are blind to whatever stages that show the same game but for its books may
differ in, and so are the adding, removing and using of items, the expiry of what has run out and the
interactions with characters.

* `Stage.Akin`: stages with games that differ in their books at most, whatever was published.  On
  such stages a bundle has the same outcomes, and leaves such stages (`Effect.process_bookless`).
-/

set_option autoImplicit false

namespace InteractiveFiction

open Course InteractiveFiction.Action

variable {rel : Stage → Stage → Prop} [Stage.Semblance rel]

/-! ## Items -/

namespace Inventory

theorem insertItem_blind (item : Item) : Blind rel (insertItem item) := by
  have unreported : (Event.inventoryChanged "add" item.id item.quantity).isReport = false := rfl
  exact blind_reading (fun _ _ => rfl) fun _ => .bind (blind_lift _) fun _ =>
    .bind (blind_modifyState (.of_commutes fun _ _ => rfl)) fun _ => blind_publish unreported

theorem takeItem_blind (id : String) (quantity : Int) : Blind rel (takeItem id quantity) := by
  unfold takeItem
  refine blind_reading (fun _ _ => rfl) fun state => ?_
  rcases take id quantity state.inventory with ⟨rest, taken⟩
  refine .bind (blind_modifyState (.of_commutes fun _ _ => rfl)) fun _ => ?_
  refine blind_publishAll fun event mem => ?_
  obtain ⟨n, -, rfl⟩ := List.mem_map.1 mem
  rfl

theorem addItems_blind (items : List Item) : Blind rel (addItems items) := by
  unfold addItems
  refine blind_reading (fun _ _ => rfl) fun state => .branch ?_ ?_
  · refine .bind (.forIn items _ fun item _ _ => ?_) fun _ => .pure true
    exact .bind (insertItem_blind item) fun _ => .pure _
  · exact .bind (blind_publish rfl) fun _ => .pure false

theorem removeItems_blind (removals : List ItemRemoval) : Blind rel (removeItems removals) := by
  unfold removeItems
  refine blind_reading (fun _ _ => rfl) fun state => .branch ?_ (.pure false)
  refine .bind (.forIn _ _ fun entry _ _ => ?_) fun _ => .pure true
  exact .bind (takeItem_blind entry.1 entry.2) fun _ => .pure _

theorem equip_blind (id slot : Document) : Blind rel (equip id slot) := by
  refine blind_reading (fun _ _ => rfl) fun state => ?_
  split
  · exact .throw _
  · refine .bind (takeItem_blind _ _) fun _ => .bind (blind_lift _) fun _ => ?_
    refine blind_reading (fun _ _ => rfl) fun state => .bind (blind_modifyPlayer _) fun _ => ?_
    dsimp only
    split
    · exact .bind (insertItem_blind _) fun _ => .pure _
    · exact .pure _

end Inventory

namespace Item

theorem wear_blind (item : Item) (message : String) (slot : Document) :
    Blind rel (item.wear message slot) :=
  .bind (Inventory.equip_blind _ _) fun _ => .pure _

theorem useByType_blind (item : Item) : Blind rel item.useByType := by
  unfold useByType
  dsimp only
  split
  · exact .bind (blind_lift _) fun _ => blind_lift _
  · exact .bind (blind_lift _) fun _ => blind_lift _
  · exact wear_blind _ _ _
  · exact .bind (blind_lift _) fun _ => wear_blind _ _ _
  · exact .bind (blind_lift _) fun _ => .pure _
  · exact .bind (blind_lift _) fun _ => .pure _
  · exact .bind (blind_lift _) fun _ => blind_lift _
  · exact .bind (blind_lift _) fun _ => blind_reading (fun _ _ => rfl) fun _ => blind_lift _
  · exact .bind (blind_lift _) fun _ => .pure _

end Item

namespace Inventory

theorem useItem_blind (id : Document) : Blind rel (useItem id) := by
  refine blind_reading (fun _ _ => rfl) fun state => ?_
  split
  · exact .pure _
  · rename_i item _
    refine .bind item.useByType_blind fun use => .bind (blind_lift _) fun fields => ?_
    have announce : ∀ consumed, Blind rel (do
        Action.publish (.itemUsed item.id use.success use.message)
        pure { use with consumed }) :=
      fun consumed => .bind (blind_publish rfl) fun _ => .pure _
    dsimp only
    split
    · exact .bind (takeItem_blind _ _) fun _ => announce _
    · exact announce _

end Inventory
/-! ## Custom effects -/

namespace CustomEffect

theorem setFlag_blind (key : String) (value : Document) : Blind rel (setFlag key value) := by
  refine blind_reading (fun _ _ => rfl) fun state => .bind (blind_lift _) fun flags => ?_
  exact blind_modifyState (.of_commutes fun _ _ => rfl)

theorem outcome_blind (description : String) (metadata : Fields) :
    Blind rel (outcome description metadata) :=
  .bind blind_now fun _ => .pure _

theorem cast_blind (custom : CustomEffect) (verb : String) : Blind rel (custom.cast verb) := by
  refine .bind blind_now fun now => .bind (blind_lift _) fun timed => ?_
  refine .bind (blind_modifyState (.of_commutes fun _ _ => rfl)) fun _ => ?_
  exact .bind (setFlag_blind _ _) fun _ => outcome_blind _ _

theorem act_blind (custom : CustomEffect) : Blind rel custom.act := by
  unfold act
  split
  · exact .bind (blind_lift _) fun target => .bind (blind_publish rfl) fun _ =>
      .bind (blind_lift _) fun _ => outcome_blind _ _
  · refine .bind (blind_lift _) fun form => blind_reading (fun _ _ => rfl) fun state => ?_
    refine .bind (setFlag_blind _ _) fun _ => .bind (blind_lift _) fun _ => ?_
    exact .bind (outcome_blind _ _) fun _ => .pure _
  · exact .bind (blind_lift _) fun creature => .bind (setFlag_blind _ _) fun _ =>
      .bind (blind_lift _) fun _ => outcome_blind _ _
  · exact cast_blind _ _
  · exact cast_blind _ _
  · exact .throw _

theorem apply_blind (custom : CustomEffect) : Blind rel custom.apply :=
  .tryCatch custom.act_blind fun _ => .bind blind_now fun _ => .pure _

end CustomEffect

/-! ## Expiry -/

namespace TimedEffect

theorem lapse_blind (effect : TimedEffect) : Blind rel effect.lapse := by
  refine .intro fun s t related => ?_
  obtain ⟨books, same⟩ := Stage.Semblance.books related
  have held : t.state.timedEffects = s.state.timedEffects := by rw [same]; rfl
  have shed := Stage.Semblance.modifyState
    (.of_commutes fun _ _ => rfl : GameState.Impartial fun state => state.shed effect.key) related
  rw [outcome_lapse, outcome_lapse, held]
  split
  · exact ⟨_, _, _, rfl, rfl, shed⟩
  · exact ⟨_, _, _, rfl, rfl, related⟩

theorem expire_blind (now : Instant) : Blind rel (expire now) := by
  refine blind_reading (fun _ _ => rfl) fun state =>
    .bind (.forIn _ _ fun effect _ _ => ?_) fun _ => .pure _
  exact .bind effect.lapse_blind fun _ => .bind (blind_publish rfl) fun _ => .pure _

end TimedEffect

/-! ## Characters -/

theorem Cast.interact_blind (cast : Cast) (character kind : Document) :
    Blind rel (cast.interact character kind) := by
  unfold Cast.interact
  split
  · exact .bind (blind_lift _) fun _ => .throw _
  · split
    · exact .throw _
    · refine blind_reading (fun _ _ => rfl) fun state => .bind blind_now fun now => ?_
      exact .bind (blind_lift _) fun _ => .bind (blind_publish rfl) fun _ => .pure _

/-! ## Parts of a bundle -/

theorem adjustRelationship_blind (character : String) (delta : Number) :
    Blind rel (adjustRelationship character delta) := by
  refine blind_reading (fun _ _ => rfl) fun state => ?_
  refine .bind (blind_modifyState (.of_commutes fun _ _ => rfl)) fun _ => ?_
  dsimp only
  split
  · exact .bind (blind_publish rfl) fun _ => .pure _
  · exact .pure _

namespace Effect

theorem changeOutcome_blind (type description : String) (old new : Number) (metadata : Fields) :
    Blind rel (changeOutcome type description old new metadata) :=
  .bind blind_now fun _ => .pure _

theorem applyHealth_blind (delta : Number) : Blind rel (applyHealth delta) := by
  refine blind_reading (fun _ _ => rfl) fun state => .bind (blind_lift _) fun new => ?_
  refine .bind (blind_modifyPlayer _) fun _ => .bind (blind_lift _) fun critical => ?_
  have announce : ∀ (p : Prop) [Decidable p] (event : Event) (rest : Unit → Action Outcome),
      event.isReport = false → (∀ u, Blind rel (rest u)) →
      Blind rel (if p then Action.publish event >>= rest else rest ()) :=
    fun _ _ _ _ unreported tail => .branch (.bind (blind_publish unreported) tail) (tail ())
  exact announce _ _ _ rfl fun _ => announce _ _ _ rfl fun _ =>
    .bind (blind_lift _) fun _ => changeOutcome_blind _ _ _ _ _

theorem applyMana_blind (delta : Number) : Blind rel (applyMana delta) :=
  blind_reading (fun _ _ => rfl) fun _ => .bind (blind_lift _) fun _ =>
    .bind (blind_modifyPlayer _) fun _ => .bind (blind_lift _) fun _ =>
      changeOutcome_blind _ _ _ _ _

theorem applyGold_blind (delta : Int) : Blind rel (applyGold delta) :=
  blind_reading (fun _ _ => rfl) fun _ => .bind (blind_modifyPlayer _) fun _ =>
    .bind (blind_lift _) fun _ => changeOutcome_blind _ _ _ _ _

theorem applyExperience_blind (delta : Number) : Blind rel (applyExperience delta) := by
  refine blind_reading (fun _ _ => rfl) fun state => .bind (blind_lift _) fun sum => ?_
  refine .bind (blind_modifyPlayer _) fun _ => .bind (blind_lift _) fun level => ?_
  refine .bind (blind_lift _) fun description => .branch ?_ ?_
  · refine .bind (blind_modifyPlayer _) fun _ => .bind (blind_publish rfl) fun _ => ?_
    exact changeOutcome_blind _ _ _ _ _
  · exact changeOutcome_blind _ _ _ _ _

theorem applyAttributes_blind (deltas : OrderedMap Int) : Blind rel (applyAttributes deltas) :=
  blind_reading (fun _ _ => rfl) fun _ => .bind (blind_modifyPlayer _) fun _ =>
    .bind (blind_lift _) fun _ => .bind blind_now fun _ => .pure _

theorem applyFlags_blind (flags : Flags) : Blind rel (applyFlags flags) :=
  blind_reading (fun _ _ => rfl) fun _ =>
    .bind (blind_modifyState (.of_commutes fun _ _ => rfl)) fun _ => .bind blind_now fun _ => .pure _

theorem applyAddItems_blind (items : List Item) : Blind rel (applyAddItems items) :=
  .bind (Inventory.addItems_blind items) fun _ => .bind blind_now fun _ =>
    .branch (.bind (blind_lift _) fun _ => .pure _) (.pure _)

theorem applyRemoveItems_blind (removals : List ItemRemoval) :
    Blind rel (applyRemoveItems removals) :=
  .bind (Inventory.removeItems_blind removals) fun _ => .bind blind_now fun _ =>
    .branch (.bind (blind_lift _) fun _ => .pure _) (.pure _)

theorem applyRelationships_blind (deltas : OrderedMap Int) :
    Blind rel (applyRelationships deltas) := by
  refine .bind (.mapM _ fun entry _ => ?_) fun _ => .bind blind_now fun _ => .pure _
  exact blind_reading (fun _ _ => rfl) fun _ =>
    .bind (adjustRelationship_blind _ _) fun _ => .pure _

theorem applyEvents_blind (names : List String) : Blind rel (applyEvents names) := by
  refine blind_reading (fun _ _ => rfl) fun state =>
    .bind (.forIn names _ fun name _ _ => ?_) fun _ => ?_
  · exact .bind (blind_publish rfl) fun _ => .pure _
  · exact .bind blind_now fun _ => .pure _

/-! ## All the parts -/

/-- What is so of each part that takes no heed, and of sounds and music, is so of all parts. -/
theorem forall_mem_parts_of_blind (effect : Effect) {P : Action Outcome → Prop}
    (blind : ∀ part, Blind rel part → P part) (sound : ∀ cue, P (applySound cue))
    (music : ∀ cue, P (applyMusic cue)) : ∀ part ∈ effect.parts, P part :=
  forall_mem_parts effect (fun delta => blind _ (applyHealth_blind delta))
    (fun delta => blind _ (applyMana_blind delta)) (fun delta => blind _ (applyGold_blind delta))
    (fun delta => blind _ (applyExperience_blind delta))
    (fun deltas => blind _ (applyAttributes_blind deltas)) (blind _ (applyFlags_blind _))
    (blind _ (applyAddItems_blind _)) (blind _ (applyRemoveItems_blind _))
    (fun deltas => blind _ (applyRelationships_blind deltas)) sound music
    (fun custom _ => blind _ custom.apply_blind) (fun names => blind _ (applyEvents_blind names))

theorem applyCue_heedless (type muted played : String) (enabled : Document) (cue : AudioCue)
    (call : AudioCall) : Heedless (applyCue type muted played enabled cue call) := by
  refine .bind blind_now fun now => .get fun s t alike => ?_
  rw [alike.audio]
  split
  · rename_i sink _
    refine .branch (.bind (heedless_play sink call) fun complaint => ?_) (.pure _)
    cases complaint <;> exact .pure _
  · exact .pure _

theorem applySound_heedless (cue : AudioCue) : Heedless (applySound cue) :=
  blind_reading (fun _ _ => rfl) fun _ => applyCue_heedless _ _ _ _ _ _

theorem applyMusic_heedless (cue : AudioCue) : Heedless (applyMusic cue) :=
  blind_reading (fun _ _ => rfl) fun _ => applyCue_heedless _ _ _ _ _ _

theorem parts_heedless (effect : Effect) : ∀ part ∈ effect.parts, Heedless part :=
  forall_mem_parts_of_blind effect (fun _ blind => blind) applySound_heedless applyMusic_heedless

theorem perform_heedless {part : Action Outcome} (h : Heedless part) : Heedless (perform part) :=
  .bind h fun _ => .bind (.modify fun _ _ alike => alike.publish rfl) fun _ => .pure _

theorem apply_heedless (effect : Effect) : Heedless effect.apply :=
  .mapM effect.parts fun part mem => perform_heedless (effect.parts_heedless part mem)

/-- Which outcomes are announced, and whether a bundle had waited, shows in what is published
only. -/
theorem finish_silently (outcomes outcomes' : List Outcome) (queued queued' : Bool) :
    Tracks Silently (finish outcomes queued) (finish outcomes' queued') :=
  .bind blind_now fun now => .bind (blind_modifyState (GameState.impartial_touch now)) fun _ =>
    publish_silently _ _

theorem process_silently (effect : Effect) : Tracks Silently effect.process effect.process := by
  refine .bind effect.apply_heedless.tracks_silent fun outcomes => ?_
  exact .bind (finish_silently outcomes outcomes false false) fun _ => .pure outcomes

end Effect

/-! ## Books -/

inductive Stage.Akin : Stage → Stage → Prop where
  | intro {stage : Stage} (books : Books) (published : List EventRecord) :
      Akin stage { stage with state := stage.state.booked books, published }

instance : Stage.Semblance Stage.Akin where
  books h := by
    cases h with
    | intro books published => exact ⟨books, rfl⟩
  now h := by cases h; rfl
  modifyState {s t change} impartial h := by
    cases h with
    | intro books published =>
      obtain ⟨left, same⟩ := impartial s.state books
      have next : Stage.Akin { s with state := change s.state }
          { s with state := (change s.state).booked left, published } := .intro left published
      rw [← same] at next
      exact next
  publish _ h := by cases h; exact .intro _ _

/-- An action that does the same whatever the books of the game say, and whatever was published. -/
abbrev Action.Bookless {α : Type} (action : Action α) : Prop :=
  Blind Stage.Akin action

namespace Effect

theorem publish_bookless (event : Event) : Action.Bookless (Action.publish event) :=
  .modify fun _ _ h => by cases h; exact .intro _ _

theorem applyCue_bookless (type muted played : String) (enabled : Document) (cue : AudioCue)
    (call : AudioCall) : Action.Bookless (applyCue type muted played enabled cue call) := by
  have plays (sink : AudioSink) : Action.Bookless (Action.play sink call) := by
    refine .intro fun s t akin => ?_
    cases akin with
    | intro books published => exact ⟨_, _, _, rfl, rfl, .intro _ _⟩
  refine .bind Action.blind_now fun now => .get fun s t akin => ?_
  have audio : t.audio = s.audio := by cases akin; rfl
  rw [audio]
  split
  · rename_i sink _
    refine .branch (.bind (plays sink) fun complaint => ?_) (.pure _)
    cases complaint <;> exact .pure _
  · exact .pure _

theorem parts_bookless (effect : Effect) : ∀ part ∈ effect.parts, Action.Bookless part :=
  forall_mem_parts_of_blind effect (fun _ blind => blind)
    (fun _ => Action.blind_reading (fun _ _ => rfl) fun _ => applyCue_bookless _ _ _ _ _ _)
    (fun _ => Action.blind_reading (fun _ _ => rfl) fun _ => applyCue_bookless _ _ _ _ _ _)

theorem apply_bookless (effect : Effect) : Action.Bookless effect.apply :=
  .mapM effect.parts fun part mem => .bind (effect.parts_bookless part mem) fun outcome =>
    .bind (publish_bookless _) fun _ => .pure outcome

theorem process_bookless (effect : Effect) : Action.Bookless effect.process := by
  have finishes (outcomes : List Outcome) : Action.Bookless (finish outcomes false) :=
    .bind Action.blind_now fun now =>
      .bind (Action.blind_modifyState (GameState.impartial_touch now)) fun _ => publish_bookless _
  exact .bind effect.apply_bookless fun outcomes =>
    .bind (finishes outcomes) fun _ => .pure outcomes

end Effect

end InteractiveFiction
