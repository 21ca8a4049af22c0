import InteractiveFiction.Proofs.Story.Ways

/-!
Conditions that raise, and numbers that overflow or are too long to be written.

* `Fault.isMishap`: the faults of the one and of the other.
* A bundle fails only by a number, if the limits of the stacks that it adds are numbers and the
  names of the items are texts (`Effect.Typed.process_failsByNumber`).
* `Repository.Typed`: a library whose ids are keys, whose texts are texts and whose limits are
  numbers.  Scenes and choices of such a library fail to be rendered only by a mishap
  (`Scene.Typed.render_failsByMishap`).
-/

set_option autoImplicit false

namespace InteractiveFiction

open Course

namespace Fault

def isMishap (fault : Fault) : Bool :=
  fault.isOfConditions || fault.isOfNumbers

theorem isMishap_of_conditions {fault : Fault} (h : fault.isOfConditions = true) :
    fault.isMishap = true := by
  rw [isMishap, h, Bool.true_or]

theorem isMishap_of_numbers {fault : Fault} (h : fault.isOfNumbers = true) :
    fault.isMishap = true := by
  rw [isMishap, h, Bool.or_true]

end Fault

namespace Result

variable {α : Type} {r : Result α}

abbrev FailsByMishap (r : Result α) : Prop :=
  r.FailsIn fun fault => fault.isMishap = true

theorem FailsByCondition.mishap (h : r.FailsByCondition) : r.FailsByMishap :=
  h.weaken fun _ => Fault.isMishap_of_conditions

theorem FailsByNumber.mishap (h : r.FailsByNumber) : r.FailsByMishap :=
  h.weaken fun _ => Fault.isMishap_of_numbers

end Result

/-! ## Items -/

namespace Inventory

/-- The limit of the stack of an item is a number. -/
def IsLimited (item : Item) : Prop :=
  ∃ limit, (stackLimit item).number? = some limit

theorem fits_of_isLimited {item : Item} (limited : IsLimited item) (total : Int) :
    Result.FailsByNumber (fits total (stackLimit item)) := by
  obtain ⟨limit, isLimit⟩ := limited
  rw [fits, isLimit]
  exact .pure _

theorem merge_failsByNumber {item : Item} (limited : IsLimited item) (items : List Item) :
    Result.FailsByNumber (merge item items) := by
  induction items with
  | nil => exact .pure none
  | cons entry entries ih =>
    unfold merge
    have search : Result.FailsByNumber (do pure ((← merge item entries).map (entry :: ·))) :=
      .bind ih fun _ => .pure _
    dsimp only
    split
    · refine .bind (fits_of_isLimited limited _) fun fit => ?_
      cases fit
      · exact search
      · exact .pure _
    · exact search

theorem insert_failsByNumber {item : Item} (limited : IsLimited item) (items : List Item) :
    Result.FailsByNumber (insert items item) := by
  unfold insert
  dsimp only
  split
  · refine .bind (merge_failsByNumber limited items) fun merged => ?_
    cases merged <;> exact .pure _
  · exact .pure _

end Inventory

/-! ## Actions -/

/-- An action that fails only by a number, whatever it changes. -/
abbrev FailsByNumber {α : Type} (action : Action α) : Prop :=
  Confined (fun _ : Stage => ()) (fun fault => fault.isOfNumbers = true) action

namespace Inventory

open InteractiveFiction.Action

theorem addItems_failsByNumber {items : List Item} (limited : ∀ item ∈ items, IsLimited item) :
    FailsByNumber (addItems items) := by
  have inserts : ∀ item ∈ items, FailsByNumber (insertItem item) := fun item mem =>
    .bind confined_state fun _ => .bind (confined_lift (insert_failsByNumber (limited item mem) _))
      fun _ => .bind (.modify fun _ => rfl) fun _ => .modify fun _ => rfl
  refine .bind confined_state fun state => .branch ?_ ?_
  · exact .bind (.forIn items _ fun item mem _ => .bind (inserts item mem) fun _ => .pure _)
      fun _ => .pure true
  · exact .bind (.modify fun _ => rfl) fun _ => .pure false

theorem removeItems_failsByNumber (removals : List ItemRemoval) :
    FailsByNumber (removeItems removals) := by
  unfold removeItems
  refine .bind confined_state fun state => .branch ?_ (.pure false)
  refine .bind (.forIn _ _ fun entry _ _ => .bind ?_ fun _ => .pure _) fun _ => .pure true
  exact .bind confined_state fun _ => .bind (.modify fun _ => rfl) fun _ => .modify fun _ => rfl

end Inventory

namespace Effect

open InteractiveFiction.Action

/-- Documents that are all texts. -/
def AreTexts (names : List Document) : Prop :=
  ∀ name ∈ names, ∃ text, name = .text text

/-- The limits of the stacks that a bundle adds are numbers, and what it adds and removes is called
by texts. -/
structure Typed (effect : Effect) : Prop where
  limits : ∀ item ∈ effect.addItems, Inventory.IsLimited item
  added : AreTexts (effect.addItems.map Item.name)
  removed : AreTexts (effect.removeItems.map ItemRemoval.title)

theorem joined_of_texts {parts : List Document} (texts : AreTexts parts) (separator : String) :
    Document.joined separator parts =
      .ok (separator.intercalate (parts.map Document.display)) := by
  have none : parts.findIdx? (fun part => part.text?.isNone) = none := by
    rw [List.findIdx?_eq_none_iff]
    intro part mem
    obtain ⟨text, rfl⟩ := texts part mem
    rfl
  rw [Document.joined, none]
  rfl

/-- Only texts can be put one after another. -/
theorem texts_of_joined {parts : List Document} {separator joined : String}
    (h : Document.joined separator parts = .ok joined) : AreTexts parts := by
  unfold Document.joined at h
  split at h
  · cases h
  · rename_i none
    intro part mem
    have isText := List.findIdx?_eq_none_iff.1 none part mem
    cases part with
    | text text => exact ⟨text, rfl⟩
    | _ => cases isText

theorem listed_failsByNumber {names : List Document} (texts : AreTexts names) :
    Result.FailsByNumber (listed names) := by
  rw [listed, joined_of_texts texts]
  exact .ok _

theorem changeOutcome_failsByNumber (type description : String) (old new : Number)
    (metadata : Fields) : FailsByNumber (changeOutcome type description old new metadata) :=
  .bind confined_now fun _ => .pure _

theorem toldChange_failsByNumber (type gain loss noun : String) (isGain : Bool) (old new : Number)
    (metadata : Fields) : FailsByNumber (do
      let description ← inWords gain loss noun isGain old new
      changeOutcome type description old new metadata) :=
  .bind (confined_lift (inWords_failsByNumber _ _ _ _ _ _)) fun _ =>
    changeOutcome_failsByNumber _ _ _ _ _

theorem applyHealth_failsByNumber (delta : Number) : FailsByNumber (applyHealth delta) := by
  refine .bind confined_state fun state => ?_
  refine .bind (confined_lift (changed_failsByNumber _ _ _)) fun new => ?_
  refine .bind (.modify fun _ => rfl) fun _ => ?_
  refine .bind (confined_lift (isCritical_failsByNumber _ _)) fun critical => ?_
  have announce : ∀ (p : Prop) [Decidable p] (event : Event) (rest : Unit → Action Outcome),
      (∀ u, FailsByNumber (rest u)) →
      FailsByNumber (if p then Action.publish event >>= rest else rest ()) :=
    fun _ _ _ _ tail => .branch (.bind (.modify fun _ => rfl) tail) (tail ())
  exact announce _ _ _ fun _ => announce _ _ _ fun _ => toldChange_failsByNumber _ _ _ _ _ _ _ _

theorem applyMana_failsByNumber (delta : Number) : FailsByNumber (applyMana delta) :=
  .bind confined_state fun _ => .bind (confined_lift (changed_failsByNumber _ _ _)) fun _ =>
    .bind (.modify fun _ => rfl) fun _ => toldChange_failsByNumber _ _ _ _ _ _ _ _

theorem applyGold_failsByNumber (delta : Int) : FailsByNumber (applyGold delta) :=
  .bind confined_state fun _ => .bind (.modify fun _ => rfl) fun _ =>
    toldChange_failsByNumber _ _ _ _ _ _ _ _

theorem applyExperience_failsByNumber (delta : Number) : FailsByNumber (applyExperience delta) := by
  refine .bind confined_state fun state => ?_
  refine .bind (confined_lift (Number.plus_failsByNumber _ _)) fun sum => ?_
  refine .bind (.modify fun _ => rfl) fun _ => ?_
  refine .bind (confined_lift (levelFor_failsByNumber _)) fun level => ?_
  refine .bind (confined_lift (inWords_failsByNumber _ _ _ _ _ _)) fun words => .branch ?_ ?_
  · refine .bind (.modify fun _ => rfl) fun _ => .bind (.modify fun _ => rfl) fun _ => ?_
    exact changeOutcome_failsByNumber _ _ _ _ _
  · exact changeOutcome_failsByNumber _ _ _ _ _

theorem applyAttributes_failsByNumber (deltas : OrderedMap Int) :
    FailsByNumber (applyAttributes deltas) :=
  .bind confined_state fun _ => .bind (.modify fun _ => rfl) fun _ =>
    .bind (confined_lift (changesOf_failsByNumber _)) fun _ => .bind confined_now fun _ => .pure _

theorem applyFlags_failsByNumber (flags : Flags) : FailsByNumber (applyFlags flags) :=
  .bind confined_state fun _ => .bind (.modify fun _ => rfl) fun _ =>
    .bind confined_now fun _ => .pure _

theorem applyAddItems_failsByNumber {items : List Item}
    (limited : ∀ item ∈ items, Inventory.IsLimited item) (texts : AreTexts (items.map Item.name)) :
    FailsByNumber (applyAddItems items) :=
  .bind (Inventory.addItems_failsByNumber limited) fun _ => .bind confined_now fun _ =>
    .branch (.bind (confined_lift (listed_failsByNumber texts)) fun _ => .pure _) (.pure _)

theorem applyRemoveItems_failsByNumber {removals : List ItemRemoval}
    (texts : AreTexts (removals.map ItemRemoval.title)) :
    FailsByNumber (applyRemoveItems removals) :=
  .bind (Inventory.removeItems_failsByNumber removals) fun _ => .bind confined_now fun _ =>
    .branch (.bind (confined_lift (listed_failsByNumber texts)) fun _ => .pure _) (.pure _)

theorem applyRelationships_failsByNumber (deltas : OrderedMap Int) :
    FailsByNumber (applyRelationships deltas) := by
  have adjusts : ∀ character delta, FailsByNumber (adjustRelationship character delta) := by
    intro character delta
    refine .bind confined_state fun state => .bind (.modify fun _ => rfl) fun _ => ?_
    exact .branch (.bind (.modify fun _ => rfl) fun _ => .pure _) (.pure _)
  refine .bind (.mapM _ fun entry _ => ?_) fun _ => .bind confined_now fun _ => .pure _
  exact .bind confined_state fun _ => .bind (adjusts _ _) fun _ => .pure _

theorem applyCue_failsByNumber (type muted played : String) (enabled : Document) (cue : AudioCue)
    (call : AudioCall) : FailsByNumber (applyCue type muted played enabled cue call) := by
  refine .bind confined_now fun now => .bind .get fun stage => ?_
  split
  · rename_i sink _
    have plays : FailsByNumber (Action.play sink call) :=
      .bind .get fun _ => .bind (.modify fun _ => rfl) fun _ => .pure _
    refine .branch (.bind plays fun complaint => ?_) (.pure _)
    cases complaint <;> exact .pure _
  · exact .pure _

theorem applySound_failsByNumber (cue : AudioCue) : FailsByNumber (applySound cue) :=
  .bind confined_state fun _ => applyCue_failsByNumber _ _ _ _ _ _

theorem applyMusic_failsByNumber (cue : AudioCue) : FailsByNumber (applyMusic cue) :=
  .bind confined_state fun _ => applyCue_failsByNumber _ _ _ _ _ _

theorem applyEvents_failsByNumber (names : List String) : FailsByNumber (applyEvents names) := by
  refine .bind confined_state fun state => .bind (.forIn names _ fun name _ _ => ?_) fun _ => ?_
  · exact .bind (.modify fun _ => rfl) fun _ => .pure _
  · exact .bind confined_now fun _ => .pure _

/-- Whatever a custom effect fails with becomes an outcome. -/
theorem applyCustom_failsByNumber (custom : CustomEffect) : FailsByNumber custom.apply :=
  .tryCatch ⟨fun _ => rfl, fun _ _ _ => trivial⟩ fun _ (_ : True) =>
    .bind confined_now fun _ => .pure _

theorem Typed.process_failsByNumber {effect : Effect} (h : effect.Typed) :
    FailsByNumber effect.process := by
  have parts := forall_mem_parts effect applyHealth_failsByNumber applyMana_failsByNumber
    applyGold_failsByNumber applyExperience_failsByNumber applyAttributes_failsByNumber
    (applyFlags_failsByNumber _) (applyAddItems_failsByNumber h.limits h.added)
    (applyRemoveItems_failsByNumber h.removed)
    applyRelationships_failsByNumber applySound_failsByNumber applyMusic_failsByNumber
    (fun custom _ => applyCustom_failsByNumber custom) applyEvents_failsByNumber
  have performs : ∀ part ∈ effect.parts, FailsByNumber (perform part) := fun part mem =>
    .bind (parts part mem) fun _ => .bind (.modify fun _ => rfl) fun _ => .pure _
  have closes : ∀ outcomes, FailsByNumber (finish outcomes false) := fun _ =>
    .bind confined_now fun _ => .bind (.modify fun _ => rfl) fun _ => .modify fun _ => rfl
  exact .bind (.mapM _ performs) fun _ => .bind (closes _) fun _ => .pure _

end Effect

/-! ## Typed libraries -/

/-- A text, or nothing. -/
def Document.IsTextual (d : Document) : Prop :=
  d.isTruthy = true → ∃ text, d = .text text

theorem Template.authored_of_isTextual {d : Document} (h : d.IsTextual) :
    Result.FailsByMishap (Template.authored d) := by
  unfold Template.authored
  split
  · exact .pure _
  · rename_i other
    split
    · rename_i present
      obtain ⟨text, isText⟩ := h present
      exact absurd isText (other text)
    · exact .pure _

/-- Values that can all be keys. -/
def Document.AreKeys (ids : List Document) : Prop :=
  ∀ id ∈ ids, id.isKey = true

theorem Document.AreKeys.odd {ids : List Document} (h : AreKeys ids) {faults : Document → Prop} :
    ∀ id ∈ ids, id.isKey = false → faults id := by
  intro id mem other
  rw [h id mem] at other
  cases other

structure Scene.Typed (scene : Scene) : Prop where
  id : scene.id.isKey = true
  content : scene.content.IsTextual
  effects : scene.effects.Typed
  choiceIds : Document.AreKeys scene.choiceIds
  characterIds : Document.AreKeys scene.characterIds

structure Choice.Typed (choice : Choice) : Prop where
  text : choice.text.IsTextual
  ways : ∀ target, choice.LeadsTo target → target.isKey = true

structure Story.Typed (story : Story) : Prop where
  id : story.id.isKey = true
  scenes : ∀ scene ∈ story.scenes, scene.Typed
  choices : ∀ choice ∈ story.choices, choice.Typed

/-- All texts and names that are shown are texts, all ids and all scenes to which players are sent
are named by keys, and all limits of stacks are numbers, as their records have them. -/
def Repository.Typed (repository : Repository) : Prop :=
  ∀ volume ∈ repository.volumes, volume.story.Typed

namespace Repository.Typed

variable {repository : Repository}

theorem story (h : repository.Typed) {id : Document} {story : Story}
    (found : repository.story id = .ok story) : story.Typed := by
  obtain ⟨volume, among, rfl, -⟩ := volume_of_story found
  exact h volume among

theorem scene (h : repository.Typed) {story id : Document} {scene : Scene}
    (found : repository.scene story id = .ok scene) : scene.Typed := by
  obtain ⟨own, isStory, found⟩ := Result.ok_of_bind found
  exact (h.story isStory).scenes _ (List.mem_of_find?_eq_some (record_of_find found))

theorem choices (h : repository.Typed) {story : Document} {ids : List Document}
    {choices : List Choice} (found : repository.choices story ids = .ok choices) :
    ∀ choice ∈ choices, choice.Typed := by
  obtain ⟨own, isStory, found⟩ := Result.ok_of_bind found
  intro choice mem
  rw [records_of_collect found] at mem
  obtain ⟨id, -, isChoice⟩ := List.mem_filterMap.1 mem
  exact (h.story isStory).choices choice (List.mem_of_find?_eq_some isChoice)

end Repository.Typed

namespace Scene

variable (now : Instant) (state : GameState)

theorem presentChoices_failsByMishap {choices : List Choice}
    (typed : ∀ choice ∈ choices, choice.Typed) :
    Result.FailsByMishap (presentChoices now state choices) := by
  induction choices with
  | nil => exact .pure []
  | cons choice choices ih =>
    obtain ⟨own, others⟩ := List.forall_mem_cons.1 typed
    unfold presentChoices
    refine .bind (Condition.evaluate_failsByCondition _ _ _).mishap fun visible => ?_
    split
    · have presents : Result.FailsByMishap (choice.present state) :=
        .bind (Template.authored_of_isTextual own.text) fun _ =>
          .bind (Template.write_failsByNumber _ _).mishap fun _ => .pure _
      exact .bind presents fun presented => .bind (ih others) fun _ => .pure _
    · exact ih others

theorem Typed.render_failsByMishap {scene : Scene} (h : scene.Typed) {choices : List Choice}
    (typed : ∀ choice ∈ choices, choice.Typed) :
    Result.FailsByMishap (scene.render now state choices) :=
  .bind (Template.authored_of_isTextual h.content) fun _ =>
    .bind (Template.write_failsByNumber _ _).mishap fun _ =>
      .bind (presentChoices_failsByMishap now state typed) fun _ => .pure _

end Scene

end InteractiveFiction
