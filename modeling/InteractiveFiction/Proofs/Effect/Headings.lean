import InteractiveFiction.Proofs.Effect.Backdrop
import InteractiveFiction.Proofs.Upholding

/-!
Under which headings a bundle gives its outcomes.

* `Outcome.heading`: the category of an outcome, and the type of the custom effect it is of.
* `Effect.headings`: one heading for each category in which a bundle has something, one for each of
  its custom effects, in the order in which the categories are done.
* `Effect.process_headed`: a bundle that does not fail has outcomes of these headings.
-/

set_option autoImplicit false

namespace InteractiveFiction

open Course

/-- An action of whose results, when it has one, something is known. -/
abbrev Tells {α : Type} (told : α → Prop) (action : Action α) : Prop :=
  Upholds (fun _ : Stage => True) told action

namespace Outcome

def heading (outcome : Outcome) : String × Document :=
  (outcome.type, Fields.getD outcome.metadata "customType" .null)

theorem heading_of_untyped {outcome : Outcome} (h : outcome.metadata.lookup "customType" = none) :
    outcome.heading = (outcome.type, .null) := by
  unfold heading Fields.getD
  rw [h]
  rfl

end Outcome

/-- An action whose outcome, when it has one, is of a heading. -/
abbrev Headed (heading : String × Document) (action : Action Outcome) : Prop :=
  Tells (fun outcome => outcome.heading = heading) action

/-! ## Parts -/

namespace Effect

theorem perform_tells {told : Outcome → Prop} {part : Action Outcome} (h : Tells told part) :
    Tells told (perform part) :=
  .bind h fun _ own => .last fun _ => .pure own

theorem changeOutcome_headed {metadata : Fields} (h : metadata.lookup "customType" = none)
    (type description : String) (old new : Number) :
    Headed (type, .null) (changeOutcome type description old new metadata) :=
  .last fun _ => .pure (Outcome.heading_of_untyped h)

theorem applyHealth_headed (delta : Number) : Headed ("health", .null) (applyHealth delta) := by
  have announced : ∀ (p : Prop) [Decidable p] (event : Event) (rest : Unit → Action Outcome),
      (∀ u, Headed ("health", .null) (rest u)) →
      Headed ("health", .null) (if p then Action.publish event >>= rest else rest ()) :=
    fun _ _ _ _ tail => .branch (.last tail) (tail ())
  refine .last fun state => .last fun new => .last fun _ => .last fun critical => ?_
  exact announced _ _ _ fun _ => announced _ _ _ fun _ =>
    .last fun _ => changeOutcome_headed rfl _ _ _ _

theorem applyMana_headed (delta : Number) : Headed ("mana", .null) (applyMana delta) :=
  .last fun _ => .last fun _ => .last fun _ => .last fun _ => changeOutcome_headed rfl _ _ _ _

theorem applyGold_headed (delta : Int) : Headed ("gold", .null) (applyGold delta) :=
  .last fun _ => .last fun _ => .last fun _ => changeOutcome_headed rfl _ _ _ _

theorem applyExperience_headed (delta : Number) :
    Headed ("experience", .null) (applyExperience delta) := by
  refine .last fun state => .last fun sum => .last fun _ => .last fun level => ?_
  refine .last fun description => .branch ?_ ?_
  · exact .last fun _ => .last fun _ => changeOutcome_headed rfl _ _ _ _
  · exact changeOutcome_headed rfl _ _ _ _

theorem applyAttributes_headed (deltas : OrderedMap Int) :
    Headed ("attributes", .null) (applyAttributes deltas) := by
  refine .last fun state => .last fun _ => .last fun changes => .last fun now => .pure ?_
  apply Outcome.heading_of_untyped
  dsimp only
  split <;> rfl

theorem applyFlags_headed (flags : Flags) : Headed ("flags", .null) (applyFlags flags) :=
  .last fun _ => .last fun _ => .last fun _ => .pure rfl

theorem applyAddItems_headed (items : List Item) :
    Headed ("addItems", .null) (applyAddItems items) :=
  .last fun _ => .last fun _ => .branch (.last fun _ => .pure rfl) (.pure rfl)

theorem applyRemoveItems_headed (removals : List ItemRemoval) :
    Headed ("removeItems", .null) (applyRemoveItems removals) :=
  .last fun _ => .last fun _ => .branch (.last fun _ => .pure rfl) (.pure rfl)

theorem applyRelationships_headed (deltas : OrderedMap Int) :
    Headed ("relationships", .null) (applyRelationships deltas) :=
  .last fun _ => .last fun _ => .pure rfl

/-- A cue has an outcome of its kind, whatever the sink says, and the call is made if there is a
sink and cues are wanted. -/
theorem applyCue_ends (type muted played : String) (enabled : Document) (cue : AudioCue)
    (call : AudioCall) (stage : Stage) :
    ∃ told : Outcome,
      outcome (applyCue type muted played enabled cue call) stage = (.ok told,
        if stage.audio.isSome && enabled.isTruthy then
          { stage with played := stage.played ++ [call] }
        else stage) ∧
      told.heading = (type, .null) ∧ told.timestamp = Timestamp.text stage.now := by
  have timed : outcome Action.now stage = (.ok stage.now, stage) := rfl
  rw [applyCue, outcome_bind_of_ok timed, outcome_bind_of_ok (outcome_get stage)]
  rcases stage with ⟨now, state, _ | sink, calls, published⟩
  · exact ⟨_, rfl, rfl, rfl⟩
  · dsimp only
    cases enabled.isTruthy with
    | false => exact ⟨_, rfl, rfl, rfl⟩
    | true =>
      have made : outcome (Action.play sink call) ⟨now, state, some sink, calls, published⟩ =
          (.ok (sink.complaint calls.length),
            ⟨now, state, some sink, calls ++ [call], published⟩) := rfl
      rw [if_pos rfl, outcome_bind_of_ok made]
      cases sink.complaint calls.length with
      | none => exact ⟨_, rfl, rfl, rfl⟩
      | some complaint => exact ⟨_, rfl, rfl, rfl⟩

theorem applyCue_headed (type muted played : String) (enabled : Document) (cue : AudioCue)
    (call : AudioCall) : Headed (type, .null) (applyCue type muted played enabled cue call) := by
  refine .intro fun stage _ => ⟨trivial, ?_⟩
  obtain ⟨told, ends, heading, -⟩ := applyCue_ends type muted played enabled cue call stage
  rw [ends]
  rintro _ ⟨⟩
  exact heading

theorem applySound_headed (cue : AudioCue) : Headed ("sound", .null) (applySound cue) :=
  .last fun _ => applyCue_headed _ _ _ _ _ _

theorem applyMusic_headed (cue : AudioCue) : Headed ("music", .null) (applyMusic cue) :=
  .last fun _ => applyCue_headed _ _ _ _ _ _

theorem applyEvents_headed (names : List String) : Headed ("events", .null) (applyEvents names) :=
  .last fun _ => .last fun _ => .last fun _ => .pure rfl

/-- In all categories but that of custom effects the category is the whole heading. -/
theorem IsPart.headed {effect : Effect} {category : Category} {part : Action Outcome}
    (h : effect.IsPart category part) (other : category ≠ .custom) :
    Headed (category.label, .null) part := by
  cases h with
  | health _ => exact applyHealth_headed _
  | mana _ => exact applyMana_headed _
  | gold _ => exact applyGold_headed _
  | experience _ => exact applyExperience_headed _
  | attributes => exact applyAttributes_headed _
  | flags => exact applyFlags_headed _
  | addItems _ => exact applyAddItems_headed _
  | removeItems _ => exact applyRemoveItems_headed _
  | relationships => exact applyRelationships_headed _
  | sound _ => exact applySound_headed _
  | music _ => exact applyMusic_headed _
  | custom _ => exact absurd rfl other
  | events => exact applyEvents_headed _

end Effect

/-! ## Custom effects -/

namespace CustomEffect

def heading (custom : CustomEffect) : String × Document :=
  ("custom", .text custom.type)

theorem outcome_headed {metadata : Fields} {type : Document}
    (h : metadata.lookup "customType" = some type) (description : String) :
    Headed ("custom", type) (outcome description metadata) := by
  refine .last fun _ => .pure ?_
  rw [Outcome.heading, Fields.getD, h]
  rfl

theorem cast_headed (custom : CustomEffect) (verb : String) :
    Headed custom.heading (custom.cast verb) :=
  .last fun _ => .last fun _ => .last fun _ => .last fun _ => outcome_headed rfl _

theorem act_headed (custom : CustomEffect) : Headed custom.heading custom.act := by
  have typed {type : String} (h : custom.type = type) : custom.heading = ("custom", .text type) := by
    rw [heading, h]
  unfold act
  split
  · rename_i type
    rw [typed type]
    exact .last fun _ => .last fun _ => .last fun _ => outcome_headed rfl _
  · rename_i type
    rw [typed type]
    exact .last fun _ => .last fun _ => .last fun _ => .last fun _ =>
      .bind (outcome_headed rfl _) fun _ headed => .pure headed
  · rename_i type
    rw [typed type]
    exact .last fun _ => .last fun _ => .last fun _ => outcome_headed rfl _
  · exact custom.cast_headed _
  · exact custom.cast_headed _
  · exact .throw _

/-- Also the outcome of a custom effect that fails tells of its type. -/
theorem apply_headed (custom : CustomEffect) : Headed custom.heading custom.apply :=
  .tryCatch custom.act_headed fun _ => .last fun _ => .pure rfl

end CustomEffect

/-! ## Bundles -/

namespace Effect

def headingsOf (effect : Effect) (category : Category) : List (String × Document) :=
  if category = .custom then effect.custom.map CustomEffect.heading
  else if effect.asks category then [(category.label, .null)] else []

def headings (effect : Effect) : List (String × Document) :=
  Category.all.flatMap effect.headingsOf

theorem inCategory_headed (effect : Effect) (category : Category) :
    Tells (fun outcomes => outcomes.map Outcome.heading = effect.headingsOf category)
      (effect.inCategory category) := by
  by_cases isCustom : category = .custom
  · rw [isCustom, inCategory_custom]
    exact .map_mapM effect.custom fun custom _ => perform_tells custom.apply_headed
  · rw [headingsOf, if_neg isCustom, inCategory]
    rcases partsOf_of_ne_custom isCustom with ⟨asksNot, none⟩ | ⟨asks, part, alone, isPart⟩
    · rw [none, asksNot]
      exact .pure rfl
    · rw [alone, asks, List.mapM_cons]
      refine .bind (perform_tells (isPart.headed isCustom)) fun outcome headed => .pure ?_
      exact congrArg (fun heading => [heading]) headed

theorem apply_headed (effect : Effect) :
    Tells (fun outcomes => outcomes.map Outcome.heading = effect.headings) effect.apply := by
  rw [apply_eq]
  refine .bind (.map_mapM Category.all fun category _ => effect.inCategory_headed category)
    fun grouped headed => .pure ?_
  rw [List.map_flatten, headed]
  rfl

theorem process_headed (effect : Effect) :
    Tells (fun outcomes => outcomes.map Outcome.heading = effect.headings) effect.process :=
  .bind effect.apply_headed fun _ headed => .last fun _ => .pure headed

end Effect

end InteractiveFiction
