import InteractiveFiction.Effect.Application
import InteractiveFiction.Proofs.Course

/-!
The categories of a bundle.

* `Effect.Category.all`: the categories in the order in which they are done.
* `Effect.partsOf`, `Effect.asks`: what a bundle does in a category, and whether that is anything.
* `Effect.IsPart`: which actions the parts of a bundle are, category by category.
* `Effect.apply_eq`: a bundle is applied category by category.
-/

set_option autoImplicit false

namespace InteractiveFiction

open Course

namespace Effect

inductive Category where
  | health | mana | gold | experience | attributes | flags | addItems | removeItems | relationships
  | sound | music | custom | events
deriving DecidableEq

namespace Category

def all : List Category :=
  [.health, .mana, .gold, .experience, .attributes, .flags, .addItems, .removeItems,
    .relationships, .sound, .music, .custom, .events]

/-- The type of the outcomes in a category. -/
def label : Category → String
  | .health => "health"
  | .mana => "mana"
  | .gold => "gold"
  | .experience => "experience"
  | .attributes => "attributes"
  | .flags => "flags"
  | .addItems => "addItems"
  | .removeItems => "removeItems"
  | .relationships => "relationships"
  | .sound => "sound"
  | .music => "music"
  | .custom => "custom"
  | .events => "events"

end Category

/-! ## Parts by category -/

def partsOf (effect : Effect) : Category → List (Action Outcome)
  | .health => (effect.health.map applyHealth).toList
  | .mana => (effect.mana.map applyMana).toList
  | .gold => (effect.gold.map applyGold).toList
  | .experience => (effect.experience.map applyExperience).toList
  | .attributes => if effect.attributes.isEmpty then [] else [applyAttributes effect.attributes]
  | .flags => if effect.flags.isEmpty then [] else [applyFlags effect.flags]
  | .addItems => if effect.addItems.isEmpty then [] else [applyAddItems effect.addItems]
  | .removeItems =>
    if effect.removeItems.isEmpty then [] else [applyRemoveItems effect.removeItems]
  | .relationships =>
    if effect.relationships.isEmpty then [] else [applyRelationships effect.relationships]
  | .sound => (effect.sound.map applySound).toList
  | .music => (effect.music.map applyMusic).toList
  | .custom => effect.custom.map CustomEffect.apply
  | .events => if effect.events.isEmpty then [] else [applyEvents effect.events]

theorem parts_eq (effect : Effect) : effect.parts = Category.all.flatMap effect.partsOf := by
  simp only [parts, Category.all, List.flatMap_cons, List.flatMap_nil, List.append_nil,
    List.append_assoc]
  rfl

/-- Whether a bundle has anything in a category. -/
def asks (effect : Effect) : Category → Bool
  | .health => effect.health.isSome
  | .mana => effect.mana.isSome
  | .gold => effect.gold.isSome
  | .experience => effect.experience.isSome
  | .attributes => !effect.attributes.isEmpty
  | .flags => !effect.flags.isEmpty
  | .addItems => !effect.addItems.isEmpty
  | .removeItems => !effect.removeItems.isEmpty
  | .relationships => !effect.relationships.isEmpty
  | .sound => effect.sound.isSome
  | .music => effect.music.isSome
  | .custom => !effect.custom.isEmpty
  | .events => !effect.events.isEmpty

/-- An action that a bundle does in a category. -/
inductive IsPart (effect : Effect) : Category → Action Outcome → Prop
  | health {delta : Number} (asked : effect.health = some delta) :
      IsPart effect .health (applyHealth delta)
  | mana {delta : Number} (asked : effect.mana = some delta) :
      IsPart effect .mana (applyMana delta)
  | gold {delta : Int} (asked : effect.gold = some delta) : IsPart effect .gold (applyGold delta)
  | experience {delta : Number} (asked : effect.experience = some delta) :
      IsPart effect .experience (applyExperience delta)
  | attributes : IsPart effect .attributes (applyAttributes effect.attributes)
  | flags : IsPart effect .flags (applyFlags effect.flags)
  | addItems (asked : effect.addItems ≠ []) : IsPart effect .addItems (applyAddItems effect.addItems)
  | removeItems (asked : effect.removeItems ≠ []) :
      IsPart effect .removeItems (applyRemoveItems effect.removeItems)
  | relationships : IsPart effect .relationships (applyRelationships effect.relationships)
  | sound {cue : AudioCue} (asked : effect.sound = some cue) : IsPart effect .sound (applySound cue)
  | music {cue : AudioCue} (asked : effect.music = some cue) : IsPart effect .music (applyMusic cue)
  | custom {authored : CustomEffect} (among : authored ∈ effect.custom) :
      IsPart effect .custom authored.apply
  | events : IsPart effect .events (applyEvents effect.events)

variable {effect : Effect} {category : Category}

/-- In all categories but that of custom effects there is one part if there is any. -/
theorem partsOf_of_ne_custom (other : category ≠ .custom) :
    (effect.asks category = false ∧ effect.partsOf category = []) ∨
      (effect.asks category = true ∧
        ∃ part, effect.partsOf category = [part] ∧ effect.IsPart category part) := by
  have optional : ∀ {α : Type} (field : Option α) (act : α → Action Outcome),
      (∀ a, field = some a → effect.IsPart category (act a)) →
      (field.isSome = false ∧ (field.map act).toList = []) ∨
        (field.isSome = true ∧
          ∃ part, (field.map act).toList = [part] ∧ effect.IsPart category part) := by
    intro α field act isPart
    cases field with
    | none => exact .inl ⟨rfl, rfl⟩
    | some a => exact .inr ⟨rfl, act a, rfl, isPart a rfl⟩
  have unlessEmpty : ∀ (empty : Bool) (act : Action Outcome),
      (empty = false → effect.IsPart category act) →
      ((!empty) = false ∧ (if empty then [] else [act]) = []) ∨
        ((!empty) = true ∧
          ∃ part, (if empty then [] else [act]) = [part] ∧ effect.IsPart category part) := by
    intro empty act isPart
    cases empty with
    | true => exact .inl ⟨rfl, rfl⟩
    | false => exact .inr ⟨rfl, act, rfl, isPart rfl⟩
  cases category with
  | health => exact optional _ _ fun _ asked => .health asked
  | mana => exact optional _ _ fun _ asked => .mana asked
  | gold => exact optional _ _ fun _ asked => .gold asked
  | experience => exact optional _ _ fun _ asked => .experience asked
  | attributes => exact unlessEmpty _ _ fun _ => .attributes
  | flags => exact unlessEmpty _ _ fun _ => .flags
  | addItems => exact unlessEmpty _ _ fun filled => .addItems (List.isEmpty_eq_false_iff.1 filled)
  | removeItems =>
    exact unlessEmpty _ _ fun filled => .removeItems (List.isEmpty_eq_false_iff.1 filled)
  | relationships => exact unlessEmpty _ _ fun _ => .relationships
  | sound => exact optional _ _ fun _ asked => .sound asked
  | music => exact optional _ _ fun _ asked => .music asked
  | custom => exact absurd rfl other
  | events => exact unlessEmpty _ _ fun _ => .events

theorem isPart_of_mem_partsOf {part : Action Outcome} (mem : part ∈ effect.partsOf category) :
    effect.IsPart category part := by
  by_cases isCustom : category = .custom
  · subst isCustom
    obtain ⟨authored, among, rfl⟩ := List.mem_map.1 mem
    exact .custom among
  · rcases partsOf_of_ne_custom isCustom with ⟨-, none⟩ | ⟨-, only, alone, isPart⟩
    · rw [none] at mem
      cases mem
    · rw [alone, List.mem_singleton] at mem
      rwa [mem]

theorem mem_parts_of_mem_partsOf {part : Action Outcome} (mem : part ∈ effect.partsOf category) :
    part ∈ effect.parts := by
  have known : category ∈ Category.all := by
    cases category <;> decide
  rw [parts_eq]
  exact List.mem_flatMap.2 ⟨category, known, mem⟩

theorem forall_parts_of_isPart {P : Action Outcome → Prop}
    (each : ∀ category part, effect.IsPart category part → P part) :
    ∀ part ∈ effect.parts, P part := by
  intro part mem
  rw [parts_eq] at mem
  obtain ⟨category, -, own⟩ := List.mem_flatMap.1 mem
  exact each category part (isPart_of_mem_partsOf own)

/-! ## Category by category -/

/-- Does what a bundle asks for in a category, each part announced. -/
def inCategory (effect : Effect) (category : Category) : Action (List Outcome) :=
  (effect.partsOf category).mapM perform

theorem inCategory_custom (effect : Effect) :
    effect.inCategory .custom = effect.custom.mapM fun custom => perform custom.apply :=
  List.mapM_map

theorem mapM_flatMap_perform (parts : Category → List (Action Outcome))
    (categories : List Category) :
    (categories.flatMap parts).mapM perform =
      (do pure (← categories.mapM fun category => (parts category).mapM perform).flatten) := by
  induction categories with
  | nil => rfl
  | cons category categories ih =>
    rw [List.flatMap_cons, List.mapM_append, ih, List.mapM_cons]
    simp only [bind_assoc, pure_bind, List.flatten_cons]

theorem apply_eq (effect : Effect) :
    effect.apply = (do pure (← Category.all.mapM effect.inCategory).flatten) := by
  rw [apply, parts_eq]
  exact mapM_flatMap_perform effect.partsOf Category.all

end Effect

end InteractiveFiction
