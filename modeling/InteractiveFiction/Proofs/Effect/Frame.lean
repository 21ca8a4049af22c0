import InteractiveFiction.Proofs.Effect.Vitals

/-!
The frame of a bundle: what it leaves as it was, whatever it does and wherever it fails.

* `Effect.flagKeys`, `Effect.timedKeys`: the keys under which a bundle may write a flag, a curse or a
  blessing.
* `Effect.Frame effect before after`: `after` differs from `before` only in what `effect` names.
* `Effect.process_frame`: so it is before and after every bundle.
-/

set_option autoImplicit false

namespace InteractiveFiction

open Course

/-! ## What is written under known keys -/

theorem Flags.without_setAll {flags news : Flags} {keys : List String}
    (among : ∀ key ∈ news.keys, key ∈ keys) :
    (flags.setAll news).without keys = flags.without keys := by
  refine OrderedMap.without_foldl (fun known entry mem => ?_) flags
  exact OrderedMap.without_insert (among entry.1 (List.mem_map_of_mem mem)) entry.2

namespace Effect

theorem without_raise (attributes deltas : OrderedMap Int) :
    (raise attributes deltas).without deltas.keys = attributes.without deltas.keys := by
  refine OrderedMap.without_foldl (fun known entry mem => ?_) attributes
  dsimp only
  split
  · exact OrderedMap.without_insert (List.mem_map_of_mem mem) _
  · rfl

/-! ## The frame -/

def flagKeys (effect : Effect) : List String :=
  effect.flags.keys ++ effect.custom.flatMap CustomEffect.flagKeys

def timedKeys (effect : Effect) : List String :=
  effect.custom.flatMap CustomEffect.timedKeys

/-- What was there before a bundle that is there after it. -/
structure Frame (effect : Effect) (before after : GameState) : Prop where
  standing : after.standing = before.standing
  name : after.player.name = before.player.name
  maxHealth : after.player.maxHealth = before.player.maxHealth
  maxMana : after.player.maxMana = before.player.maxMana
  equipment : after.player.equipment = before.player.equipment
  capacity : after.player.inventoryCapacity = before.player.inventoryCapacity
  health : effect.health = none → effect.experience = none →
    after.player.health = before.player.health
  mana : effect.mana = none → effect.experience = none → after.player.mana = before.player.mana
  gold : effect.gold = none → after.player.gold = before.player.gold
  experience : effect.experience = none → after.player.experience = before.player.experience
  level : effect.experience = none → after.player.level = before.player.level
  attributes : after.player.attributes.without effect.attributes.keys =
    before.player.attributes.without effect.attributes.keys
  inventory : effect.addItems = [] → effect.removeItems = [] → after.inventory = before.inventory
  relationships : after.relationships.without effect.relationships.keys =
    before.relationships.without effect.relationships.keys
  flags : after.flags.without effect.flagKeys = before.flags.without effect.flagKeys
  timedEffects : after.timedEffects.without effect.timedKeys =
    before.timedEffects.without effect.timedKeys
  createdAt : after.metadata.createdAt = before.metadata.createdAt
  version : after.metadata.version = before.metadata.version

namespace Frame

variable {effect : Effect} {before between after : GameState}

theorem refl (effect : Effect) (state : GameState) : effect.Frame state state where
  standing := rfl
  name := rfl
  maxHealth := rfl
  maxMana := rfl
  equipment := rfl
  capacity := rfl
  health := fun _ _ => rfl
  mana := fun _ _ => rfl
  gold := fun _ => rfl
  experience := fun _ => rfl
  level := fun _ => rfl
  attributes := rfl
  inventory := fun _ _ => rfl
  relationships := rfl
  flags := rfl
  timedEffects := rfl
  createdAt := rfl
  version := rfl

theorem trans (h : effect.Frame before between) (h' : effect.Frame between after) :
    effect.Frame before after where
  standing := h'.standing.trans h.standing
  name := h'.name.trans h.name
  maxHealth := h'.maxHealth.trans h.maxHealth
  maxMana := h'.maxMana.trans h.maxMana
  equipment := h'.equipment.trans h.equipment
  capacity := h'.capacity.trans h.capacity
  health := fun none same => (h'.health none same).trans (h.health none same)
  mana := fun none same => (h'.mana none same).trans (h.mana none same)
  gold := fun none => (h'.gold none).trans (h.gold none)
  experience := fun none => (h'.experience none).trans (h.experience none)
  level := fun none => (h'.level none).trans (h.level none)
  attributes := h'.attributes.trans h.attributes
  inventory := fun none same => (h'.inventory none same).trans (h.inventory none same)
  relationships := h'.relationships.trans h.relationships
  flags := h'.flags.trans h.flags
  timedEffects := h'.timedEffects.trans h.timedEffects
  createdAt := h'.createdAt.trans h.createdAt
  version := h'.version.trans h.version

end Frame

instance (effect : Effect) : Std.Refl effect.Frame :=
  ⟨Frame.refl effect⟩

instance (effect : Effect) : Trans effect.Frame effect.Frame effect.Frame :=
  ⟨Frame.trans⟩

variable {effect : Effect}

/-! ## Part by part -/

theorem applyItems_framed (asked : effect.addItems ≠ [] ∨ effect.removeItems ≠ []) :
    ∀ (state : GameState) items, effect.Frame state (state.holding items) := fun state _ =>
  { Frame.refl effect state with
    inventory := fun noneAdded noneRemoved => absurd asked (by simp [noneAdded, noneRemoved]) }

theorem customEffect_framed {custom : CustomEffect} (among : custom ∈ effect.custom) :
    Moving effect.Frame custom.apply := by
  refine CustomEffect.apply_moving (fun state key own flag => ?_) fun state timed own => ?_
  · have known : key ∈ effect.flagKeys :=
      List.mem_append.2 (.inr (List.mem_flatMap.2 ⟨custom, among, own⟩))
    exact { Frame.refl effect state with flags := OrderedMap.without_insert known flag }
  · have known : timed.key ∈ effect.timedKeys := List.mem_flatMap.2 ⟨custom, among, own⟩
    exact { Frame.refl effect state with timedEffects := OrderedMap.without_insert known timed }

/-- Every part keeps to what its bundle names in its category, also when it fails. -/
theorem IsPart.framed {category : Category} {part : Action Outcome}
    (h : effect.IsPart category part) : Moving effect.Frame part := by
  cases h with
  | health asked =>
    exact applyHealth_moving (fun state _ => { Frame.refl effect state with
      health := fun none => nomatch asked.symm.trans none }) _
  | mana asked =>
    exact applyMana_moving (fun state _ => { Frame.refl effect state with
      mana := fun none => nomatch asked.symm.trans none }) _
  | gold asked =>
    exact applyGold_moving (fun state _ => { Frame.refl effect state with
      gold := fun none => nomatch asked.symm.trans none }) _
  | experience asked =>
    have given : effect.experience ≠ none := fun none => nomatch asked.symm.trans none
    refine applyExperience_moving (fun state _ => ?_) (fun state _ _ _ _ => ?_) _
    · exact { Frame.refl effect state with experience := fun none => absurd none given }
    · exact { Frame.refl effect state with
        health := fun _ none => absurd none given
        mana := fun _ none => absurd none given
        experience := fun none => absurd none given
        level := fun none => absurd none given }
  | attributes =>
    exact applyAttributes_moving fun state => { Frame.refl effect state with
      attributes := without_raise state.player.attributes effect.attributes }
  | flags =>
    have known : ∀ key ∈ effect.flags.keys, key ∈ effect.flagKeys := fun key mem =>
      List.mem_append.2 (.inl mem)
    exact applyFlags_moving fun state => { Frame.refl effect state with
      flags := Flags.without_setAll known }
  | addItems asked =>
    exact applyAddItems_moving_of (Inventory.addItems_moving (applyItems_framed (.inl asked)) _)
  | removeItems asked =>
    exact applyRemoveItems_moving_of
      (Inventory.removeItems_moving (applyItems_framed (.inr asked)) _)
  | relationships =>
    exact applyRelationships_moving fun state _ mem _ _ => { Frame.refl effect state with
      relationships := OrderedMap.without_insert mem _ }
  | sound _ => exact applySound_moving _
  | music _ => exact applyMusic_moving _
  | custom among => exact customEffect_framed among
  | events => exact applyEvents_moving _

/-! ## The whole bundle -/

theorem process_frame (effect : Effect) (stage : Stage) :
    effect.Frame stage.state (after effect.process stage).state :=
  process_moving (forall_parts_of_isPart fun _ _ part => part.framed)
    (fun state _ => { Frame.refl effect state with }) stage

end Effect

end InteractiveFiction
