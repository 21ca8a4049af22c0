import InteractiveFiction.Inventory.Use
import InteractiveFiction.Proofs.Backdrop
import InteractiveFiction.Proofs.State.WellFormed
import InteractiveFiction.Proofs.Upholding

/-!
Items keep states well-formed: adding, removing, wearing and using them, also where it fails.  The
bundle that a use brings is well-formed too.
-/

set_option autoImplicit false

namespace InteractiveFiction

open Course

/-- Of a bundle, what may get into a state. -/
structure Effect.WellFormed (effect : Effect) : Prop where
  flags : effect.flags.Named
  addItems : ∀ item ∈ effect.addItems, item.WellFormed

def Stage.WellFormed (stage : Stage) : Prop :=
  stage.state.WellFormed

/-! ## Primitive actions -/

namespace Action

variable {α : Type} {gives : α → Prop}

theorem upholds_state : Upholds Stage.WellFormed GameState.WellFormed Action.state :=
  .bind .get fun _ wellFormed => .pure wellFormed

theorem upholds_now : Upholds Stage.WellFormed Anything Action.now :=
  .bind .get fun _ _ => .pure trivial

theorem upholds_lift {r : Result α} (h : r.Gives gives) :
    Upholds Stage.WellFormed gives (liftM r : Action α) :=
  .of_result (outcome_lift r) h

theorem upholds_modifyState {change : GameState → GameState}
    (h : ∀ state : GameState, state.WellFormed → (change state).WellFormed) :
    Upholds Stage.WellFormed Anything (Action.modifyState change) :=
  .modify fun stage => h stage.state

theorem upholds_modifyPlayer {change : Player → Player}
    (h : ∀ player, (change player).equipment = player.equipment) :
    Upholds Stage.WellFormed Anything (Action.modifyPlayer change) := by
  refine upholds_modifyState fun state wellFormed => { wellFormed with worn := ?_ }
  rw [h]
  exact wellFormed.worn

theorem upholds_publish (event : Event) : Upholds Stage.WellFormed Anything (Action.publish event) :=
  .modify fun _ wellFormed => wellFormed

theorem upholds_publishAll (events : List Event) :
    Upholds Stage.WellFormed Anything (modify fun stage => stage.publishAll events) := by
  refine .modify fun stage wellFormed => ?_
  rw [Stage.publishAll_eq]
  exact wellFormed

theorem upholds_play (sink : AudioSink) (call : AudioCall) :
    Upholds Stage.WellFormed Anything (Action.play sink call) :=
  .bind .get fun _ _ => .bind (.modify fun _ wellFormed => wellFormed) fun _ _ => .pure trivial

end Action

/-! ## Entries -/

/-- Every entry of an inventory is well-formed. -/
abbrev Inventory.Kept (items : List Item) : Prop :=
  ∀ item ∈ items, item.WellFormed

namespace Inventory

open InteractiveFiction.Action

theorem Kept.cons {item : Item} {items : List Item} (own : item.WellFormed) (h : Kept items) :
    Kept (item :: items) :=
  List.forall_mem_cons.2 ⟨own, h⟩

theorem merge_gives {item : Item} {items : List Item} (h : Kept items) :
    Result.Gives (fun merged => ∀ items, merged = some items → Kept items) (merge item items) := by
  induction items with
  | nil => exact .pure nofun
  | cons entry entries ih =>
    obtain ⟨own, others⟩ := List.forall_mem_cons.1 h
    have search : Result.Gives (fun merged => ∀ items, merged = some items → Kept items)
        (do pure ((← merge item entries).map (entry :: ·))) := by
      refine .bind (ih others) fun merged kept => .pure ?_
      intro items grown
      obtain ⟨rest, merges, rfl⟩ := Option.map_eq_some_iff.1 grown
      exact .cons own (kept rest merges)
    unfold merge
    dsimp only
    split
    · refine .bind (.anything _) fun fit _ => ?_
      cases fit
      · exact search
      · refine .pure fun items grown => ?_
        cases grown
        exact .cons (own.withQuantity _) others
    · exact search

theorem insert_gives {items : List Item} {item : Item} (h : Kept items) (own : item.WellFormed) :
    Result.Gives Kept (insert items item) := by
  have appended : Kept (items ++ [item]) := by
    intro entry mem
    rcases List.mem_append.1 mem with mem | mem
    · exact h entry mem
    · rw [List.mem_singleton.1 mem]
      exact own
  unfold insert
  dsimp only
  split
  · refine .bind (merge_gives h) fun merged kept => ?_
    cases merged with
    | none => exact .pure appended
    | some items => exact .pure (kept items rfl)
  · exact .pure appended

theorem kept_take (id : String) (quantity : Int) {items : List Item} (h : Kept items) :
    Kept (take id quantity items).1 := by
  induction items generalizing quantity with
  | nil => exact h
  | cons entry entries ih =>
    obtain ⟨own, others⟩ := List.forall_mem_cons.1 h
    unfold take
    split
    · exact h
    · split
      · exact .cons own (ih quantity others)
      · dsimp only
        split
        · exact ih _ others
        · exact .cons (own.withQuantity _) (ih _ others)

/-! ## Adding, removing and wearing -/

theorem upholds_setItems {items : List Item} (kept : Kept items) :
    Upholds Stage.WellFormed Anything
      (Action.modifyState fun state => { state with inventory := items }) :=
  upholds_modifyState fun _ wellFormed => { wellFormed with held := kept }

theorem insertItem_upholds {item : Item} (own : item.WellFormed) :
    Upholds Stage.WellFormed Anything (insertItem item) := by
  refine .bind upholds_state fun state wellFormed => ?_
  refine .bind (upholds_lift (insert_gives wellFormed.held own)) fun items kept => ?_
  exact .bind (upholds_setItems kept) fun _ _ => upholds_publish _

theorem takeItem_upholds (id : String) (quantity : Int) :
    Upholds Stage.WellFormed Anything (takeItem id quantity) := by
  unfold takeItem
  refine .bind upholds_state fun state wellFormed => ?_
  have kept := kept_take id quantity wellFormed.held
  rcases taken : take id quantity state.inventory with ⟨rest, given⟩
  rw [taken] at kept
  exact .bind (upholds_setItems kept) fun _ _ => upholds_publishAll _

theorem addItems_upholds {items : List Item} (kept : Kept items) :
    Upholds Stage.WellFormed Anything (addItems items) := by
  unfold addItems
  refine .bind upholds_state fun state _ => .branch ?_ ?_
  · refine .bind (.forIn items _ fun item mem _ => ?_) fun _ _ => .pure trivial
    exact .bind (insertItem_upholds (kept item mem)) fun _ _ => .pure trivial
  · exact .bind (upholds_publish _) fun _ _ => .pure trivial

theorem removeItems_upholds (removals : List ItemRemoval) :
    Upholds Stage.WellFormed Anything (removeItems removals) := by
  unfold removeItems
  refine .bind upholds_state fun state _ => .branch ?_ (.pure trivial)
  refine .bind (.forIn _ _ fun entry _ _ => ?_) fun _ _ => .pure trivial
  exact .bind (takeItem_upholds entry.1 entry.2) fun _ _ => .pure trivial

theorem equip_upholds (id slot : Document) :
    Upholds Stage.WellFormed Anything (equip id slot) := by
  unfold equip
  refine .bind upholds_state fun state wellFormed => ?_
  split
  · exact .throw _
  · rename_i item found
    have own : item.WellFormed := wellFormed.held item (List.mem_of_find?_eq_some found)
    refine .bind (takeItem_upholds _ _) fun _ _ => .bind (upholds_lift (.anything _)) fun _ _ => ?_
    refine .bind upholds_state fun state wellFormed => ?_
    refine .bind (upholds_modifyState fun state wellFormed => ?_) fun _ _ => ?_
    · exact { wellFormed with worn := wellFormed.worn.put slot (own.withQuantity 1) }
    · dsimp only
      split
      · rename_i previous worn
        have old : previous.WellFormed := wellFormed.worn.of_item? worn
        exact .bind (insertItem_upholds (old.withQuantity 1)) fun _ _ => .pure trivial
      · exact .pure trivial

end Inventory

/-! ## Using -/

namespace Item

open InteractiveFiction.Action

/-- The bundle that a use brings is well-formed. -/
abbrev BringsWellFormed (use : ItemUse) : Prop :=
  use.effect.WellFormed

theorem wellFormed_of_numbers (health mana experience : Option Number) :
    Effect.WellFormed { health, mana, experience } where
  flags := nofun
  addItems := nofun

theorem named_raised {names : List String} (filled : ∀ name ∈ names, name ≠ "") :
    (raised names).flags.Named := by
  intro entry mem
  obtain ⟨name, among, rfl⟩ := List.mem_map.1 (OrderedMap.mem_ofEntries mem)
  exact filled name among

/-- A text that starts with a fixed one is a name for a flag. -/
theorem named_raised_one {name : String} (filled : name ≠ "") : (raised [name]).flags.Named := by
  apply named_raised
  intro other mem
  rw [List.mem_singleton.1 mem]
  exact filled

theorem usePotion_brings (item : Item) (properties : Fields) :
    Result.Gives BringsWellFormed (item.usePotion properties) :=
  .bind (.anything _) fun _ _ => .pure (wellFormed_of_numbers _ _ none)

theorem useFood_brings (item : Item) (properties : Fields) :
    Result.Gives BringsWellFormed (item.useFood properties) :=
  .bind (.anything _) fun _ _ => .pure (wellFormed_of_numbers _ none none)

theorem useTool_brings (item : Item) (properties : Fields) :
    BringsWellFormed (item.useTool properties) := by
  unfold useTool
  split
  · exact wellFormed_of_numbers none none none
  · exact wellFormed_of_numbers none none none

theorem useKey_brings (item : Item) (properties : Fields) :
    BringsWellFormed (item.useKey properties) := by
  unfold useKey
  dsimp only
  split
  · exact ⟨named_raised_one (append_ne_empty_right (by decide)), nofun⟩
  · exact wellFormed_of_numbers none none none

theorem useBook_brings (item : Item) (properties : Fields) :
    Result.Gives BringsWellFormed (item.useBook properties) := by
  refine .bind (.anything _) fun knowledge _ => .bind (.anything _) fun experience _ => .pure ?_
  refine ⟨named_raised fun name mem => ?_, nofun⟩
  obtain ⟨k, -, rfl⟩ := List.mem_map.1 mem
  exact append_ne_empty_left (by decide)

theorem useScroll_brings (item : Item) (properties : Fields) (mana : Int) :
    Result.Gives BringsWellFormed (item.useScroll properties mana) := by
  refine .bind (.anything _) fun cost _ => ?_
  split
  · exact .pure (wellFormed_of_numbers none none none)
  · refine .pure ?_
    dsimp only
    split
    · exact ⟨named_raised_one (append_ne_empty_right (by decide)), nofun⟩
    · exact wellFormed_of_numbers none _ none

theorem useGeneric_brings (item : Item) : BringsWellFormed item.useGeneric :=
  ⟨named_raised_one (append_ne_empty_right (by decide)), nofun⟩

theorem wear_upholds (item : Item) (message : String) (slot : Document) :
    Upholds Stage.WellFormed BringsWellFormed (item.wear message slot) :=
  .bind (Inventory.equip_upholds _ _) fun _ _ => .pure (wellFormed_of_numbers none none none)

theorem useByType_upholds (item : Item) :
    Upholds Stage.WellFormed BringsWellFormed item.useByType := by
  have fields : ∀ access, Upholds Stage.WellFormed Anything
      (liftM (item.properties.fields access) : Action Fields) :=
    fun access => upholds_lift (.anything _)
  unfold useByType
  dsimp only
  split
  · exact .bind (fields _) fun _ _ => upholds_lift (usePotion_brings _ _)
  · exact .bind (fields _) fun _ _ => upholds_lift (useFood_brings _ _)
  · exact wear_upholds _ _ _
  · exact .bind (fields _) fun _ _ => wear_upholds _ _ _
  · exact .bind (fields _) fun _ _ => .pure (useTool_brings _ _)
  · exact .bind (fields _) fun _ _ => .pure (useKey_brings _ _)
  · exact .bind (fields _) fun _ _ => upholds_lift (useBook_brings _ _)
  · exact .bind (fields _) fun _ _ => .bind upholds_state fun _ _ =>
      upholds_lift (useScroll_brings _ _ _)
  · exact .bind (upholds_lift (.anything _)) fun _ _ => .pure (useGeneric_brings item)

end Item

theorem Inventory.useItem_upholds (id : Document) :
    Upholds Stage.WellFormed Item.BringsWellFormed (Inventory.useItem id) := by
  unfold Inventory.useItem
  refine .bind Action.upholds_state fun state _ => ?_
  split
  · exact .pure (Item.wellFormed_of_numbers none none none)
  · rename_i item _
    refine .bind item.useByType_upholds fun use brings => ?_
    refine .bind (Action.upholds_lift (.anything _)) fun fields _ => ?_
    have announce : ∀ consumed, Upholds Stage.WellFormed Item.BringsWellFormed (do
        Action.publish (.itemUsed item.id use.success use.message)
        pure { use with consumed }) :=
      fun consumed => .bind (Action.upholds_publish _) fun _ _ => .pure brings
    dsimp only
    split
    · exact .bind (takeItem_upholds _ _) fun _ _ => announce _
    · exact announce _

end InteractiveFiction
