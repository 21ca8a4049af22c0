import InteractiveFiction.Proofs.Effect.Moments
import InteractiveFiction.Proofs.Effect.Stopping

/-!
The curses and blessings that bundles cast.

* `Effect.castings`: what a bundle casts if it does not fail.
* `GameState.Casts cast before after`: under each key `after` holds what of `cast` was cast last under
  it, or what was there; and what was cast is flagged.
* `Effect.process_casts`: so it is before and after a bundle; one that fails has cast nothing.
* `Batch.play_casts`: so it is before and after several bundles, and what all of them cast.
-/

set_option autoImplicit false

namespace InteractiveFiction

open Course

theorem Flags.contains_setAll {flags : Flags} {key : String} (held : flags.contains key = true)
    (news : Flags) : (flags.setAll news).contains key = true := by
  unfold setAll
  induction news.entries generalizing flags with
  | nil => exact held
  | cons entry entries ih => exact ih (OrderedMap.contains_insert held entry.1 entry.2)

/-! ## What was cast last under a key -/

namespace TimedEffect

def lastOf (key : String) (effects : List TimedEffect) : Option TimedEffect :=
  effects.reverse.find? (·.key == key)

theorem lastOf_append (key : String) (earlier later : List TimedEffect) :
    lastOf key (earlier ++ later) = (lastOf key later).or (lastOf key earlier) := by
  rw [lastOf, List.reverse_append, List.find?_append]
  rfl

theorem lastOf_eq_some {key : String} {effects : List TimedEffect} {effect : TimedEffect}
    (h : lastOf key effects = some effect) : effect ∈ effects ∧ effect.key = key :=
  ⟨List.mem_reverse.1 (List.mem_of_find?_eq_some h), by simpa using List.find?_some h⟩

theorem lastOf_isSome {effects : List TimedEffect} {effect : TimedEffect} (mem : effect ∈ effects) :
    (lastOf effect.key effects).isSome = true :=
  List.find?_isSome.2 ⟨effect, List.mem_reverse.2 mem, beq_self_eq_true _⟩

end TimedEffect

open TimedEffect (lastOf lastOf_append)

namespace GameState

/-- What is held and flagged after some curses and blessings were cast, one after another. -/
structure Casts (cast : List TimedEffect) (before after : GameState) : Prop where
  found (key : String) : after.timedEffects.get? key =
    (lastOf key cast).or (before.timedEffects.get? key)
  flagged (key : String) : (lastOf key cast).isSome = true → after.flags.contains key = true
  keeps (key : String) : before.flags.contains key = true → after.flags.contains key = true

namespace Casts

variable {cast later : List TimedEffect} {before between after : GameState}

theorem of_flags (timedEffects : after.timedEffects = before.timedEffects)
    (keeps : ∀ key, before.flags.contains key = true → after.flags.contains key = true) :
    Casts [] before after where
  found key := by rw [timedEffects]; rfl
  flagged _ none := nomatch none
  keeps := keeps

/-- Neither curses and blessings nor flags changed. -/
theorem of_same (timedEffects : after.timedEffects = before.timedEffects)
    (flags : after.flags = before.flags) : Casts [] before after :=
  of_flags timedEffects fun key held => by rwa [flags]

theorem trans (h : Casts cast before between) (h' : Casts later between after) :
    Casts (cast ++ later) before after where
  found key := by rw [h'.found, h.found, lastOf_append, Option.or_assoc]
  flagged key isCast := by
    rw [lastOf_append, Option.isSome_or, Bool.or_eq_true] at isCast
    rcases isCast with isLater | isEarlier
    · exact h'.flagged key isLater
    · exact h'.keeps key (h.flagged key isEarlier)
  keeps key held := h'.keeps key (h.keeps key held)

theorem one (state : GameState) (effect : TimedEffect) (flag : FlagValue) :
    Casts [effect] state { state with
      timedEffects := state.timedEffects.insert effect.key effect
      flags := state.flags.insert effect.key flag } where
  found key := by
    by_cases same : effect.key = key
    · subst same
      rw [OrderedMap.get?_insert_self]
      simp [lastOf]
    · rw [OrderedMap.get?_insert_of_ne _ (Ne.symm same)]
      simp [lastOf, same]
  flagged key isCast := by
    obtain ⟨found, isFound⟩ := Option.isSome_iff_exists.1 isCast
    obtain ⟨among, rfl⟩ := TimedEffect.lastOf_eq_some isFound
    rw [List.mem_singleton.1 among]
    exact OrderedMap.contains_insert_self _ _ _
  keeps key held := OrderedMap.contains_insert held _ _

end Casts

instance : Std.Refl (Casts []) :=
  ⟨fun _ => .of_same rfl rfl⟩

instance : Trans (Casts []) (Casts []) (Casts []) :=
  ⟨Casts.trans⟩

end GameState

/-! ## Custom effects -/

namespace CustomEffect

open InteractiveFiction.Action

/-- The curse or the blessing that a custom effect casts at a moment. -/
def casting? (custom : CustomEffect) (now : Instant) : Option TimedEffect :=
  match custom.type with
  | "curse" | "blessing" => (custom.timedEffect now).toOption
  | _ => none

theorem cast_casts (custom : CustomEffect) (verb : String) (stage : Stage) :
    GameState.Casts (custom.timedEffect stage.now).toOption.toList stage.state
      (after (custom.cast verb) stage).state := by
  have isNow : Course.outcome Action.now stage = (.ok stage.now, stage) := rfl
  rw [cast, after, outcome_bind_of_ok isNow, outcome_bind, outcome_lift]
  cases lasting : custom.timedEffect stage.now with
  | error fault => exact .of_same rfl rfl
  | ok timed =>
    have named : timed.key ≠ "" := by
      rw [custom.timedEffect_keyed stage.now timed lasting, timedKey]
      simp
    have checked : FlagValue.check (.text timed.key) (.bool true) = .ok (timed.key, .bool true) := by
      rw [FlagValue.check, if_neg (by simpa using named)]
      rfl
    let held : Stage := { stage with state := { stage.state with
      timedEffects := stage.state.timedEffects.insert timed.key timed } }
    have holds : Course.outcome (Action.modifyState fun state =>
        { state with timedEffects := state.timedEffects.insert timed.key timed }) stage =
        (.ok (), held) := rfl
    have flags := outcome_setFlag timed.key (.bool true) held
    rw [checked] at flags
    dsimp only
    rw [outcome_bind_of_ok holds, outcome_bind_of_ok flags]
    exact .one stage.state timed (.bool true)

theorem state_after_apply (custom : CustomEffect) (stage : Stage) :
    (after custom.apply stage).state = (after custom.act stage).state := by
  rw [apply, after, outcome_tryCatch, outcome_eq custom.act stage]
  cases result custom.act stage <;> rfl

theorem apply_casts (custom : CustomEffect) (stage : Stage) :
    GameState.Casts (custom.casting? stage.now).toList stage.state
      (after custom.apply stage).state := by
  by_cases isTimed : custom.type = "curse" ∨ custom.type = "blessing"
  · rw [state_after_apply]
    rcases isTimed with type | type
    · have acts : custom.act = custom.cast "Cursed" := by simp [act, type]
      have casts : custom.casting? stage.now = (custom.timedEffect stage.now).toOption := by
        simp [casting?, type]
      rw [acts, casts]
      exact custom.cast_casts "Cursed" stage
    · have acts : custom.act = custom.cast "Blessed" := by simp [act, type]
      have casts : custom.casting? stage.now = (custom.timedEffect stage.now).toOption := by
        simp [casting?, type]
      rw [acts, casts]
      exact custom.cast_casts "Blessed" stage
  · obtain ⟨noCurse, noBlessing⟩ := not_or.1 isTimed
    have casts : custom.casting? stage.now = none := by
      unfold casting?
      split
      · exact absurd ‹_› noCurse
      · exact absurd ‹_› noBlessing
      · rfl
    have keys : custom.timedKeys = [] := by
      unfold timedKeys
      split
      · exact absurd ‹_› noCurse
      · exact absurd ‹_› noBlessing
      · rfl
    have moves : Moving (GameState.Casts []) custom.apply := by
      refine apply_moving (fun state key _ flag => ?_) fun state effect own => ?_
      · exact .of_flags rfl fun _ held => OrderedMap.contains_insert held _ _
      · rw [keys] at own
        cases own
    rw [casts]
    exact moves stage

end CustomEffect

/-! ## The time -/

/-- One stage, at a moment. -/
structure Stage.At (now : Instant) (s t : Stage) : Prop where
  same : s = t
  isNow : s.now = now

instance (now : Instant) : Stage.Likeness (Stage.At now) where
  state h := congrArg Stage.state h.same
  now h := congrArg Stage.now h.same
  modifyState _ h := ⟨by rw [h.same], h.isNow⟩
  publish _ h := ⟨by rw [h.same], h.isNow⟩

theorem Stage.At.of_blind {α : Type} {now : Instant} {action : Action α}
    (h : Blind (Stage.At now) action) {stage : Stage} (isNow : stage.now = now) :
    (after action stage).now = now :=
  (h stage stage ⟨rfl, isNow⟩).2.isNow

namespace Effect

open InteractiveFiction.Action

variable {effect : Effect} {category : Category}

/-- No time passes while a part is done. -/
theorem parts_keepTime (effect : Effect) : ∀ part ∈ effect.parts, Leads (Keeps Stage.now) part := by
  have cues : ∀ type muted played enabled cue call,
      Leads (Keeps Stage.now) (applyCue type muted played enabled cue call) := by
    intro type muted played enabled cue call stage
    obtain ⟨told, ends, -⟩ := applyCue_ends type muted played enabled cue call stage
    rw [after, ends]
    dsimp only
    split <;> rfl
  have sound : ∀ cue, Leads (Keeps Stage.now) (applySound cue) := fun _ =>
    .bind .get fun _ => cues _ _ _ _ _ _
  have music : ∀ cue, Leads (Keeps Stage.now) (applyMusic cue) := fun _ =>
    .bind .get fun _ => cues _ _ _ _ _ _
  intro part mem stage
  exact forall_mem_parts_of_blind effect
    (fun _ (blind : Blind (Stage.At stage.now) _) => Stage.At.of_blind blind rfl)
    (fun cue => sound cue stage) (fun cue => music cue stage) part mem

theorem perform_keepsTime {part : Action Outcome} (h : Leads (Keeps Stage.now) part) :
    Leads (Keeps Stage.now) (perform part) :=
  .bind h fun _ => .bind (.modify fun _ => rfl) fun _ => .pure _

theorem inCategory_keepsTime (effect : Effect) (category : Category) :
    Leads (Keeps Stage.now) (effect.inCategory category) :=
  .mapM _ fun part mem => perform_keepsTime (effect.parts_keepTime part (mem_parts_of_mem_partsOf mem))

/-! ## Bundles -/

/-- What a bundle casts if it does not fail. -/
def castings (effect : Effect) (now : Instant) : List TimedEffect :=
  effect.custom.flatMap fun custom => (custom.casting? now).toList

/-- What a bundle casts on a stage. -/
def cast (effect : Effect) (stage : Stage) : List TimedEffect :=
  if fault? effect.process stage = none then effect.castings stage.now else []

theorem IsPart.castless {part : Action Outcome} (h : effect.IsPart category part)
    (other : category ≠ .custom) : Moving (GameState.Casts []) part := by
  have held : ∀ (state : GameState) items, GameState.Casts [] state (state.holding items) :=
    fun _ _ => .of_same rfl rfl
  cases h with
  | health _ => exact applyHealth_moving (fun _ _ => .of_same rfl rfl) _
  | mana _ => exact applyMana_moving (fun _ _ => .of_same rfl rfl) _
  | gold _ => exact applyGold_moving (fun _ _ => .of_same rfl rfl) _
  | experience _ =>
    exact applyExperience_moving (fun _ _ => .of_same rfl rfl) (fun _ _ _ _ _ => .of_same rfl rfl) _
  | attributes => exact applyAttributes_moving fun _ => .of_same rfl rfl
  | flags =>
    exact applyFlags_moving fun _ => .of_flags rfl fun _ held => Flags.contains_setAll held _
  | addItems _ => exact applyAddItems_moving_of (Inventory.addItems_moving held _)
  | removeItems _ => exact applyRemoveItems_moving_of (Inventory.removeItems_moving held _)
  | relationships => exact applyRelationships_moving fun _ _ _ _ _ => .of_same rfl rfl
  | sound _ => exact applySound_moving _
  | music _ => exact applyMusic_moving _
  | custom _ => exact absurd rfl other
  | events => exact applyEvents_moving _

theorem inCategory_castless (other : category ≠ .custom) :
    Moving (GameState.Casts []) (effect.inCategory category) :=
  .mapM _ fun _ mem => perform_moving ((isPart_of_mem_partsOf mem).castless other)

theorem perform_delivers {part : Action Outcome} (h : Delivers Anything part) :
    Delivers Anything (perform part) :=
  .bind h fun _ _ => .bind (delivers_publish _) fun _ _ => .pure trivial

theorem customs_cast (customs : List CustomEffect) (stage : Stage) :
    ∃ outcomes last, outcome (customs.mapM fun custom => perform custom.apply) stage =
      (.ok outcomes, last) ∧
      GameState.Casts (customs.flatMap fun custom => (custom.casting? stage.now).toList) stage.state
        last.state := by
  induction customs generalizing stage with
  | nil => exact ⟨[], stage, rfl, .of_same rfl rfl⟩
  | cons custom customs ih =>
    obtain ⟨told, between, first, -⟩ := perform_delivers (custom_delivers custom) stage
    have own : GameState.Casts (custom.casting? stage.now).toList stage.state between.state := by
      have casts := custom.apply_casts stage
      rwa [← state_after_perform, after, first] at casts
    have isNow : between.now = stage.now := by
      have keeps : Leads (Keeps Stage.now) custom.apply := fun _ =>
        Stage.At.of_blind custom.apply_blind rfl
      exact (perform_keepsTime keeps).of_outcome first
    obtain ⟨outcomes, last, rest, others⟩ := ih between
    rw [isNow] at others
    refine ⟨told :: outcomes, last, ?_, ?_⟩
    · rw [List.mapM_cons, outcome_bind_of_ok first, outcome_bind_of_ok rest]
      rfl
    · exact own.trans others

theorem events_deliver (effect : Effect) : Delivers Anything (effect.inCategory .events) := by
  change Delivers Anything
    ((if effect.events.isEmpty then [] else [applyEvents effect.events]).mapM perform)
  split
  · exact .pure trivial
  · rw [List.mapM_cons, List.mapM_nil]
    exact .bind (perform_delivers (applyEvents_delivers _)) fun _ _ => .pure trivial

/-- A bundle that fails does so before it comes to what it casts. -/
theorem apply_casts (effect : Effect) (stage : Stage) :
    GameState.Casts (if fault? effect.apply stage = none then effect.castings stage.now else [])
      stage.state (after effect.apply stage).state := by
  have applies : effect.apply = (do
      let front ← (Category.all.take 11).mapM effect.inCategory
      let customs ← effect.inCategory .custom
      let events ← effect.inCategory .events
      pure (front ++ [customs, events]).flatten) := by
    have ordered : Category.all = Category.all.take 11 ++ [.custom, .events] := rfl
    rw [apply_eq, ordered, List.mapM_append]
    simp only [List.mapM_cons, List.mapM_nil, bind_assoc, pure_bind]
    rfl
  have uncustomary : ∀ category ∈ Category.all.take 11, category ≠ .custom := by decide
  have front : Moving (GameState.Casts []) ((Category.all.take 11).mapM effect.inCategory) :=
    .mapM _ fun category mem => inCategory_castless (uncustomary category mem)
  have time : Leads (Keeps Stage.now) ((Category.all.take 11).mapM effect.inCategory) :=
    .mapM _ fun category _ => effect.inCategory_keepsTime category
  rcases first : outcome ((Category.all.take 11).mapM effect.inCategory) stage with ⟨r, middle⟩
  have castless : GameState.Casts [] stage.state middle.state := front.of_outcome first
  cases r with
  | error fault =>
    have ends : outcome effect.apply stage = (.error fault, middle) := by
      rw [applies, outcome_bind_of_error first]
    rw [after, fault?, result, ends]
    exact castless
  | ok told =>
    have isNow : middle.now = stage.now := time.of_outcome first
    obtain ⟨outcomes, cursed, customs, casts⟩ := customs_cast effect.custom middle
    rw [← inCategory_custom] at customs
    obtain ⟨shown, last, events, -⟩ := effect.events_deliver cursed
    have ends : outcome effect.apply stage = (.ok (told ++ [outcomes, shown]).flatten, last) := by
      rw [applies, outcome_bind_of_ok first, outcome_bind_of_ok customs, outcome_bind_of_ok events]
      rfl
    have behind : GameState.Casts [] cursed.state last.state :=
      (inCategory_castless (by decide : Category.events ≠ .custom)).of_outcome events
    have whole := (castless.trans casts).trans behind
    rw [isNow, List.nil_append, List.append_nil] at whole
    rw [after, fault?, result, ends]
    exact whole

theorem process_casts (effect : Effect) (stage : Stage) :
    GameState.Casts (effect.cast stage) stage.state (after effect.process stage).state := by
  have touched : Stage.Relates (GameState.Casts []) (after effect.apply stage)
      (after effect.process stage) :=
    process_touches (fun _ _ => .of_same rfl rfl) effect stage
  have closes : fault? effect.process stage = fault? effect.apply stage := by
    rw [fault?, fault?, result, result, process, outcome_bind]
    rcases outcome effect.apply stage with ⟨r, last⟩
    cases r <;> rfl
  have whole := (effect.apply_casts stage).trans touched
  rwa [List.append_nil, ← closes] at whole

end Effect

/-! ## Several bundles -/

namespace Batch

/-- What bundles cast that are applied one after another. -/
def cast : List Batch → Stage → List TimedEffect
  | [], _ => []
  | batch :: batches, stage =>
    batch.effect.cast stage ++ cast batches (after batch.effect.process stage)

theorem play_casts (batches : List Batch) (stage : Stage) :
    GameState.Casts (cast batches stage) stage.state (play batches stage).state := by
  induction batches generalizing stage with
  | nil => exact .of_same rfl rfl
  | cons batch batches ih => exact (batch.effect.process_casts stage).trans (ih _)

end Batch

end InteractiveFiction
