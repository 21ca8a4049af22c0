import InteractiveFiction.Effect.Application
import InteractiveFiction.Effect.Expiry
import InteractiveFiction.Proofs.Effect.Vitals
import InteractiveFiction.Proofs.Inventory.WellFormed

/-!
Well-formed bundles keep states well-formed, whatever parts of them fail, and so does the expiry of
curses and blessings.
-/

set_option autoImplicit false

namespace InteractiveFiction

open Course

/-! ## Flags -/

theorem Flags.Named.setAll {flags news : Flags} (h : flags.Named) (own : news.Named) :
    (flags.setAll news).Named := by
  unfold Flags.setAll
  obtain ⟨entries, nodup⟩ := news
  replace own : ∀ entry ∈ entries, entry.1 ≠ "" := own
  dsimp only
  clear nodup
  induction entries generalizing flags with
  | nil => exact h
  | cons entry entries ih =>
    obtain ⟨filled, others⟩ := List.forall_mem_cons.1 own
    exact ih (h.insert filled entry.2) others

/-! ## Custom effects -/

namespace CustomEffect

open InteractiveFiction.Action

theorem setFlag_upholds (key : String) (value : Document) :
    Upholds Stage.WellFormed Anything (setFlag key value) := by
  refine .bind upholds_state fun state wellFormed => ?_
  refine .bind (upholds_lift fun _ set => Flags.named_of_set wellFormed.flags set) fun flags named => ?_
  exact upholds_modifyState fun _ wellFormed => { wellFormed with flags := named }

theorem outcome_upholds (description : String) (metadata : Fields) :
    Upholds Stage.WellFormed Anything (outcome description metadata) :=
  .bind upholds_now fun _ _ => .pure trivial

/-- What is told of a custom effect in words that may not be written. -/
theorem worded_upholds (words : Result String) (tell : String → String) (metadata : Fields) :
    Upholds Stage.WellFormed Anything (do outcome (tell (← words)) metadata) :=
  .bind (upholds_lift (.anything _)) fun _ _ => outcome_upholds _ _

theorem timedEffect_gives (custom : CustomEffect) (now : Instant) :
    Result.Gives TimedEffect.WellFormed (custom.timedEffect now) := by
  refine .bind (.anything _) fun type _ => ?_
  refine .bind (.anything _) fun duration _ => .bind (.anything _) fun effects _ => ?_
  split
  · exact .of_throw _ _
  · exact .pure (Document.orElse_object effects)

theorem cast_upholds (custom : CustomEffect) (verb : String) :
    Upholds Stage.WellFormed Anything (custom.cast verb) := by
  refine .bind upholds_now fun now _ => ?_
  refine .bind (upholds_lift (custom.timedEffect_gives now)) fun timed own => ?_
  refine .bind (upholds_modifyState fun state wellFormed => ?_) fun _ _ => ?_
  · refine { wellFormed with timedEffects := fun entry mem => ?_ }
    rcases OrderedMap.mem_insert mem with rfl | was
    · exact own
    · exact wellFormed.timedEffects entry was
  · exact .bind (setFlag_upholds _ _) fun _ _ => outcome_upholds _ _

theorem act_upholds (custom : CustomEffect) : Upholds Stage.WellFormed Anything custom.act := by
  have demand : ∀ key, Upholds Stage.WellFormed Anything
      (liftM (custom.demand key) : Action Document) := fun key => upholds_lift (.anything _)
  unfold act
  split
  · exact .bind (demand _) fun target _ => .bind (upholds_publish _) fun _ _ =>
      worded_upholds target.written _ _
  · refine .bind (demand _) fun form _ => .bind upholds_state fun state _ => ?_
    refine .bind (setFlag_upholds _ _) fun _ _ => .bind (upholds_lift (.anything _)) fun _ _ => ?_
    exact .bind (outcome_upholds _ _) fun _ _ => .pure trivial
  · exact .bind (demand _) fun creature _ => .bind (setFlag_upholds _ _) fun _ _ =>
      worded_upholds creature.written _ _
  · exact cast_upholds _ _
  · exact cast_upholds _ _
  · exact .throw _

theorem apply_upholds (custom : CustomEffect) : Upholds Stage.WellFormed Anything custom.apply :=
  .tryCatch custom.act_upholds fun _ => .bind upholds_now fun _ _ => .pure trivial

end CustomEffect

/-! ## Parts of bundles -/

theorem adjustRelationship_upholds (character : String) (delta : Number) :
    Upholds Stage.WellFormed Anything (adjustRelationship character delta) := by
  refine .bind Action.upholds_state fun state _ => ?_
  refine .bind (Action.upholds_modifyState fun state wellFormed => ?_) fun _ _ => ?_
  · refine { wellFormed with relationships := fun entry mem => ?_ }
    rcases OrderedMap.mem_insert mem with rfl | was
    · exact changedRelationship_inRange _ _
    · exact wellFormed.relationships entry was
  · dsimp only
    split
    · exact .bind (Action.upholds_publish _) fun _ _ => .pure trivial
    · exact .pure trivial

namespace Effect

open InteractiveFiction.Action

theorem changeOutcome_upholds (type description : String) (old new : Number) (metadata : Fields) :
    Upholds Stage.WellFormed Anything (changeOutcome type description old new metadata) :=
  .bind upholds_now fun _ _ => .pure trivial

theorem toldChange_upholds (type gain loss noun : String) (isGain : Bool) (old new : Number)
    (metadata : Fields) : Upholds Stage.WellFormed Anything (do
      let description ← inWords gain loss noun isGain old new
      changeOutcome type description old new metadata) :=
  .bind (upholds_lift (.anything _)) fun _ _ => changeOutcome_upholds _ _ _ _ _

theorem applyHealth_upholds (delta : Number) :
    Upholds Stage.WellFormed Anything (applyHealth delta) := by
  refine .bind upholds_state fun state _ => .bind (upholds_lift (.anything _)) fun new _ => ?_
  refine .bind (upholds_modifyPlayer fun _ => rfl) fun _ _ => ?_
  refine .bind (upholds_lift (.anything _)) fun critical _ => ?_
  have announce : ∀ (p : Prop) [Decidable p] (event : Event) (rest : Unit → Action Outcome),
      (∀ u, Upholds Stage.WellFormed Anything (rest u)) →
      Upholds Stage.WellFormed Anything (if p then Action.publish event >>= rest else rest ()) :=
    fun _ _ _ _ tail => .branch (.bind (upholds_publish _) fun u _ => tail u) (tail ())
  exact announce _ _ _ fun _ => announce _ _ _ fun _ => toldChange_upholds _ _ _ _ _ _ _ _

theorem applyMana_upholds (delta : Number) : Upholds Stage.WellFormed Anything (applyMana delta) :=
  .bind upholds_state fun _ _ => .bind (upholds_lift (.anything _)) fun _ _ =>
    .bind (upholds_modifyPlayer fun _ => rfl) fun _ _ => toldChange_upholds _ _ _ _ _ _ _ _

theorem applyGold_upholds (delta : Int) : Upholds Stage.WellFormed Anything (applyGold delta) :=
  .bind upholds_state fun _ _ => .bind (upholds_modifyPlayer fun _ => rfl) fun _ _ =>
    toldChange_upholds _ _ _ _ _ _ _ _

theorem applyExperience_upholds (delta : Number) :
    Upholds Stage.WellFormed Anything (applyExperience delta) := by
  refine .bind upholds_state fun state _ => .bind (upholds_lift (.anything _)) fun sum _ => ?_
  refine .bind (upholds_modifyPlayer fun _ => rfl) fun _ _ => ?_
  refine .bind (upholds_lift (.anything _)) fun level _ => ?_
  refine .bind (upholds_lift (.anything _)) fun words _ => .branch ?_ ?_
  · refine .bind (upholds_modifyPlayer fun _ => rfl) fun _ _ => ?_
    exact .bind (upholds_publish _) fun _ _ => changeOutcome_upholds _ _ _ _ _
  · exact changeOutcome_upholds _ _ _ _ _

theorem applyAttributes_upholds (deltas : OrderedMap Int) :
    Upholds Stage.WellFormed Anything (applyAttributes deltas) :=
  .bind upholds_state fun _ _ => .bind (upholds_modifyPlayer fun _ => rfl) fun _ _ =>
    .bind (upholds_lift (.anything _)) fun _ _ => .bind upholds_now fun _ _ => .pure trivial

theorem applyFlags_upholds {flags : Flags} (named : flags.Named) :
    Upholds Stage.WellFormed Anything (applyFlags flags) := by
  refine .bind upholds_state fun _ _ => .bind (upholds_modifyState fun state wellFormed => ?_)
    fun _ _ => .bind upholds_now fun _ _ => .pure trivial
  exact { wellFormed with flags := wellFormed.flags.setAll named }

theorem applyAddItems_upholds {items : List Item} (kept : Inventory.Kept items) :
    Upholds Stage.WellFormed Anything (applyAddItems items) := by
  refine .bind (Inventory.addItems_upholds kept) fun added _ => .bind upholds_now fun now _ => ?_
  exact .branch (.bind (upholds_lift (.anything _)) fun _ _ => .pure trivial) (.pure trivial)

theorem applyRemoveItems_upholds (removals : List ItemRemoval) :
    Upholds Stage.WellFormed Anything (applyRemoveItems removals) := by
  refine .bind (Inventory.removeItems_upholds removals) fun removed _ => ?_
  refine .bind upholds_now fun now _ => .branch ?_ (.pure trivial)
  exact .bind (upholds_lift (.anything _)) fun _ _ => .pure trivial

theorem applyRelationships_upholds (deltas : OrderedMap Int) :
    Upholds Stage.WellFormed Anything (applyRelationships deltas) := by
  have changes : ∀ entry ∈ deltas.entries, Upholds Stage.WellFormed Anything (do
      let old := (← Action.state).relationship (.text entry.1)
      let new ← adjustRelationship entry.1 (.int entry.2)
      pure (entry.1, Document.object [("old", .int old), ("new", .int new),
        ("change", .int (new - old))])) := fun entry _ =>
    .bind upholds_state fun _ _ => .bind (adjustRelationship_upholds _ _) fun _ _ => .pure trivial
  exact .bind (.mapM _ changes) fun _ _ => .bind upholds_now fun _ _ => .pure trivial

theorem applyCue_upholds (type muted played : String) (enabled : Document) (cue : AudioCue)
    (call : AudioCall) :
    Upholds Stage.WellFormed Anything (applyCue type muted played enabled cue call) := by
  refine .bind upholds_now fun now _ => .bind .get fun stage _ => ?_
  split
  · rename_i sink _
    refine .branch (.bind (upholds_play sink call) fun complaint _ => ?_) (.pure trivial)
    cases complaint <;> exact .pure trivial
  · exact .pure trivial

theorem applySound_upholds (cue : AudioCue) : Upholds Stage.WellFormed Anything (applySound cue) :=
  .bind upholds_state fun _ _ => applyCue_upholds _ _ _ _ _ _

theorem applyMusic_upholds (cue : AudioCue) : Upholds Stage.WellFormed Anything (applyMusic cue) :=
  .bind upholds_state fun _ _ => applyCue_upholds _ _ _ _ _ _

theorem applyEvents_upholds (names : List String) :
    Upholds Stage.WellFormed Anything (applyEvents names) := by
  refine .bind upholds_state fun state _ => .bind (.forIn names _ fun name _ _ => ?_) fun _ _ => ?_
  · exact .bind (upholds_publish _) fun _ _ => .pure trivial
  · exact .bind upholds_now fun _ _ => .pure trivial

/-! ## Bundles -/

theorem WellFormed.parts_uphold {effect : Effect} (h : effect.WellFormed) :
    ∀ part ∈ effect.parts, Upholds Stage.WellFormed Anything part :=
  forall_mem_parts effect applyHealth_upholds applyMana_upholds applyGold_upholds
    applyExperience_upholds applyAttributes_upholds (applyFlags_upholds h.flags)
    (applyAddItems_upholds h.addItems) (applyRemoveItems_upholds _) applyRelationships_upholds
    applySound_upholds applyMusic_upholds (fun custom _ => custom.apply_upholds) applyEvents_upholds

theorem finish_upholds (outcomes : List Outcome) (queued : Bool) :
    Upholds Stage.WellFormed Anything (finish outcomes queued) := by
  refine .bind upholds_now fun now _ => ?_
  refine .bind (upholds_modifyState fun state wellFormed => ?_) fun _ _ => upholds_publish _
  exact { wellFormed with lastModified := Timestamp.isTruthy_text now }

theorem WellFormed.apply_upholds {effect : Effect} (h : effect.WellFormed) :
    Upholds Stage.WellFormed Anything effect.apply := by
  have performs : ∀ part ∈ effect.parts, Upholds Stage.WellFormed Anything (perform part) :=
    fun part mem => .bind (h.parts_uphold part mem) fun _ _ =>
      .bind (upholds_publish _) fun _ _ => .pure trivial
  exact .any (.mapM _ performs)

theorem WellFormed.process_upholds {effect : Effect} (h : effect.WellFormed) :
    Upholds Stage.WellFormed Anything effect.process :=
  .bind h.apply_upholds fun _ _ => .bind (finish_upholds _ _) fun _ _ => .pure trivial

end Effect

/-! ## Expiry -/

namespace TimedEffect

open InteractiveFiction.Action

theorem lapse_upholds (effect : TimedEffect) : Upholds Stage.WellFormed Anything effect.lapse := by
  refine .bind upholds_state fun state wellFormed => .branch ?_ (.throw _)
  have left : { state with
      timedEffects := state.timedEffects.erase effect.key
      flags := state.flags.erase effect.key }.WellFormed :=
    { wellFormed with
      timedEffects := fun entry mem => wellFormed.timedEffects entry (List.mem_filter.1 mem).1
      flags := fun entry mem => wellFormed.flags entry (List.mem_filter.1 mem).1 }
  exact .modify fun _ _ => left

theorem expire_upholds (now : Instant) : Upholds Stage.WellFormed Anything (expire now) := by
  refine .bind upholds_state fun state _ => .bind (.forIn _ _ fun effect _ _ => ?_) fun _ _ => ?_
  · exact .bind effect.lapse_upholds fun _ _ => .bind (upholds_publish _) fun _ _ => .pure trivial
  · exact .pure trivial

end TimedEffect

end InteractiveFiction
