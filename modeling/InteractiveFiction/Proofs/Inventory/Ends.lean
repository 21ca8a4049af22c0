import InteractiveFiction.Inventory.Use
import InteractiveFiction.Proofs.Backdrop
import InteractiveFiction.Proofs.Inventory.Quantity
import InteractiveFiction.Proofs.Upholding

/-!
How the operations on an inventory end: what they give and the state they leave.

One statement for each operation says all that it can do, failures included.  What is announced on
the way is left out; it never matters to a state.
-/

set_option autoImplicit false

namespace InteractiveFiction

open Course

namespace GameState

/-- The state with other items in the inventory. -/
def holding (state : GameState) (items : List Item) : GameState :=
  { state with inventory := items }

/-- The state with one of an item put into a slot. -/
def wearing (state : GameState) (slot : Document) (item : Item) : GameState :=
  { state with player :=
    { state.player with equipment := state.player.equipment.put slot { item with quantity := 1 } } }

/-- The state with a slot cleared. -/
def baring (state : GameState) (slot : Document) : GameState :=
  { state with player := { state.player with equipment := state.player.equipment.clear slot } }

/-- The state with some things of an id taken away. -/
def without (state : GameState) (id : String) (quantity : Int) : GameState :=
  state.holding (Inventory.take id quantity state.inventory).1

end GameState

namespace Inventory

open InteractiveFiction.Action

variable {stage stage' : Stage}

/-! ## Adding and removing -/

theorem insertItem_ends {item : Item} {r : Except Fault Unit}
    (ends : outcome (insertItem item) stage = (r, stage')) :
    (∃ fault, insert stage.state.inventory item = .error fault ∧ r = .error fault ∧
        stage'.state = stage.state) ∨
      ∃ grown, insert stage.state.inventory item = .ok grown ∧ r = .ok () ∧
        stage'.state = stage.state.holding grown := by
  unfold insertItem at ends
  rw [outcome_bind_of_ok (outcome_state stage), outcome_bind, outcome_lift] at ends
  cases grows : insert stage.state.inventory item with
  | error fault =>
    rw [grows] at ends
    cases ends
    exact .inl ⟨fault, rfl, rfl, rfl⟩
  | ok grown =>
    rw [grows] at ends
    cases ends
    exact .inr ⟨grown, rfl, rfl, rfl⟩

/-- What is put back goes into the inventory, or nowhere. -/
theorem giveBack_ends {item : Item} {r : Except Fault (Option Item)}
    (ends : outcome (do
      insertItem { item with quantity := 1 }
      pure (some item)) stage = (r, stage')) :
    (∃ fault, r = .error fault ∧ stage'.state = stage.state) ∨
      ∃ grown, Enters { item with quantity := 1 } stage.state.inventory grown ∧
        r = .ok (some item) ∧ stage'.state = stage.state.holding grown := by
  rw [outcome_bind] at ends
  rcases inserts : outcome (insertItem { item with quantity := 1 }) stage with ⟨given, last⟩
  rw [inserts] at ends
  rcases insertItem_ends inserts with ⟨fault, -, rfl, kept⟩ | ⟨grown, grows, rfl, put⟩
  · cases ends
    exact .inl ⟨fault, rfl, kept⟩
  · cases ends
    exact .inr ⟨grown, insert_enters grows, rfl, put⟩

theorem takeItem_ends (id : String) (quantity : Int) (stage : Stage) :
    ∃ stage', outcome (takeItem id quantity) stage = (.ok (), stage') ∧
      stage'.state = stage.state.without id quantity :=
  ⟨_, rfl, Stage.state_publishAll _ _⟩

/-- What is held after items were put in one after another, up to one that cannot be, and why that
cannot. -/
def putAll (held : List Item) : List Item → List Item × Option Fault
  | [] => (held, none)
  | item :: items =>
    match insert held item with
    | .ok grown => putAll grown items
    | .error fault => (held, some fault)

theorem putAll_enters (items held : List Item) :
    ∃ added, added <+: items ∧ EntersAll added held (putAll held items).1 ∧
      ((putAll held items).2 = none → added = items) := by
  induction items generalizing held with
  | nil => exact ⟨[], List.prefix_rfl, .nil _, fun _ => rfl⟩
  | cons item items ih =>
    rw [putAll]
    cases grows : insert held item with
    | error fault => exact ⟨[], List.nil_prefix, .nil _, fun fits => nomatch fits⟩
    | ok grown =>
      obtain ⟨added, among, enters, all⟩ := ih grown
      exact ⟨item :: added, List.cons_prefix_cons.2 ⟨rfl, among⟩,
        .cons (insert_enters grows) enters, fun fits => by rw [all fits]⟩

theorem putAll_ends (items : List Item) (stage : Stage) :
    ∃ last, outcome (forIn items PUnit.unit fun item _ => do
        insertItem item
        pure (ForInStep.yield PUnit.unit)) stage =
        ((putAll stage.state.inventory items).2.elim (.ok PUnit.unit) .error, last) ∧
      last.state = stage.state.holding (putAll stage.state.inventory items).1 := by
  induction items generalizing stage with
  | nil => exact ⟨stage, rfl, rfl⟩
  | cons item items ih =>
    rw [List.forIn_cons, putAll, outcome_bind, outcome_bind]
    rcases inserts : outcome (insertItem item) stage with ⟨given, between⟩
    rcases insertItem_ends inserts with ⟨fault, stuck, rfl, same⟩ | ⟨grown, grows, rfl, left⟩
    · rw [stuck]
      exact ⟨between, rfl, same⟩
    · obtain ⟨last, ends, rest⟩ := ih between
      rw [left] at ends rest
      rw [grows]
      exact ⟨last, ends, rest⟩

/-- Without room nothing is put in, and that is no failure. -/
theorem addItems_puts (items : List Item) (stage : Stage) :
    ∃ last, outcome (addItems items) stage =
        (if stage.state.hasRoom (used items) then
          (putAll stage.state.inventory items).2.elim (.ok true) .error else .ok false, last) ∧
      last.state = if stage.state.hasRoom (used items) then
        stage.state.holding (putAll stage.state.inventory items).1 else stage.state := by
  unfold addItems
  rw [outcome_bind_of_ok (outcome_state stage)]
  dsimp only
  split
  · obtain ⟨last, ends, left⟩ := putAll_ends items stage
    rw [outcome_bind, ends]
    cases (putAll stage.state.inventory items).2 <;> exact ⟨last, rfl, left⟩
  · exact ⟨_, rfl, rfl⟩

/-- Either there is no room for all and nothing is added, or all are added up to one that cannot
be; only a failure leaves some out. -/
theorem addItems_ends {items : List Item} {r : Except Fault Bool}
    (ends : outcome (addItems items) stage = (r, stage')) :
    ∃ added grown, added <+: items ∧ EntersAll added stage.state.inventory grown ∧
      stage'.state = stage.state.holding grown ∧
      (stage.state.hasRoom (used items) = true ∨ added = []) ∧
      ∀ accepted, r = .ok accepted → added = if accepted then items else [] := by
  obtain ⟨last, puts, left⟩ := addItems_puts items stage
  rw [puts] at ends
  by_cases room : stage.state.hasRoom (used items) = true
  · obtain ⟨added, among, enters, all⟩ := putAll_enters items stage.state.inventory
    rw [if_pos room] at ends left
    cases ends
    refine ⟨added, _, among, enters, left, .inl room, fun accepted given => ?_⟩
    cases fits : (putAll stage.state.inventory items).2 with
    | none =>
      rw [fits] at given
      cases given
      exact all fits
    | some fault =>
      rw [fits] at given
      cases given
  · rw [if_neg room] at ends left
    cases ends
    refine ⟨[], _, List.nil_prefix, .nil _, left, .inr rfl, fun accepted given => ?_⟩
    cases given
    rfl

/-- Whether an inventory has as much as removals ask for. -/
def covers (items : List Item) (removals : List ItemRemoval) : Bool :=
  (needed removals).entries.all fun (id, quantity) => decide (quantity ≤ count items id)

theorem enough_of_covers {items : List Item} {removals : List ItemRemoval}
    (h : covers items removals = true) :
    ∀ entry ∈ (needed removals).entries, entry.2 ≤ count items entry.1 :=
  fun entry mem => of_decide_eq_true (List.all_eq_true.1 h entry mem)

theorem takeAll_ends (wanted : List (String × Int)) (stage : Stage) :
    ∃ stage', outcome (forIn wanted PUnit.unit fun entry _ => do
        takeItem entry.1 entry.2
        pure (ForInStep.yield PUnit.unit)) stage = (.ok PUnit.unit, stage') ∧
      stage'.state = stage.state.holding (takeAll wanted stage.state.inventory) := by
  induction wanted generalizing stage with
  | nil => exact ⟨stage, rfl, rfl⟩
  | cons entry wanted ih =>
    obtain ⟨between, takes, left⟩ := takeItem_ends entry.1 entry.2 stage
    obtain ⟨stage', takesAll, rest⟩ := ih between
    refine ⟨stage', ?_, ?_⟩
    · rw [List.forIn_cons, outcome_bind, outcome_bind_of_ok takes]
      exact takesAll
    · rw [rest, left]
      rfl

/-- All is removed where there is enough of all, else nothing. -/
theorem removeItems_ends (removals : List ItemRemoval) (stage : Stage) :
    ∃ stage', outcome (removeItems removals) stage =
        (.ok (covers stage.state.inventory removals), stage') ∧
      stage'.state = if covers stage.state.inventory removals then
          stage.state.holding (takeAll (needed removals).entries stage.state.inventory)
        else stage.state := by
  have unfolds : outcome (removeItems removals) stage =
      outcome (if covers stage.state.inventory removals then do
        forIn (needed removals).entries PUnit.unit fun entry _ => do
          takeItem entry.1 entry.2
          pure (ForInStep.yield PUnit.unit)
        pure true
      else pure false) stage := by
    unfold removeItems
    rw [outcome_bind_of_ok (outcome_state stage)]
    rfl
  cases enough : covers stage.state.inventory removals with
  | false =>
    rw [unfolds, enough]
    exact ⟨stage, rfl, rfl⟩
  | true =>
    obtain ⟨stage', takes, left⟩ := takeAll_ends (needed removals).entries stage
    refine ⟨stage', ?_, left⟩
    rw [unfolds, enough, if_pos rfl, outcome_bind_of_ok takes]
    rfl

/-! ## Sorting -/

theorem map_snd_of_mapM {f : Item → Result Document} {items : List Item}
    {keyed : List (Document × Item)}
    (h : (items.mapM fun item => do pure ((← f item), item)) = .ok keyed) :
    keyed.map Prod.snd = items := by
  induction items generalizing keyed with
  | nil =>
    cases h
    rfl
  | cons item items ih =>
    rw [List.mapM_cons] at h
    obtain ⟨first, own, h⟩ := Result.ok_of_bind h
    obtain ⟨rest, others, h⟩ := Result.ok_of_bind h
    obtain ⟨key, -, own⟩ := Result.ok_of_bind own
    cases own
    cases h
    rw [List.map_cons, ih others]

theorem sort_perm {order : InventoryOrder} {items sorted : List Item}
    (h : order.sort items = .ok sorted) : sorted.Perm items := by
  unfold InventoryOrder.sort at h
  obtain ⟨keyed, keys, h⟩ := Result.ok_of_bind h
  split at h
  · cases h
    have same := (List.mergeSort_perm keyed fun a b => InventoryOrder.atMost a.1 b.1).map Prod.snd
    rwa [map_snd_of_mapM keys] at same
  · cases h

theorem sort_ends {key : Document} {r : Except Fault Unit}
    (ends : outcome (sort key) stage = (r, stage')) :
    (∃ fault, r = .error fault ∧ stage'.state = stage.state) ∨
      ∃ sorted, sorted.Perm stage.state.inventory ∧ r = .ok () ∧
        stage'.state = stage.state.holding sorted := by
  unfold sort at ends
  split at ends
  · rename_i order _
    rw [outcome_bind_of_ok (outcome_state stage), outcome_bind, outcome_lift] at ends
    cases sorts : order.sort stage.state.inventory with
    | error fault =>
      rw [sorts] at ends
      cases ends
      exact .inl ⟨fault, rfl, rfl⟩
    | ok sorted =>
      rw [sorts] at ends
      cases ends
      exact .inr ⟨sorted, sort_perm sorts, rfl, rfl⟩
  · cases ends
    exact .inl ⟨_, rfl, rfl⟩

/-! ## Wearing -/

/-- How putting on what an id names may end. -/
inductive Equips (state : GameState) (id slot : Document) :
    Except Fault (Option Item) → GameState → Prop
  | absent {fault : Fault} (unheld : state.findItem? id = none) :
      Equips state id slot (.error fault) state
  /-- What was to be put on is gone. -/
  | noSlot {item : Item} {fault : Fault} (held : state.findItem? id = some item)
      (unfit : slot.isKey = false) : Equips state id slot (.error fault) (state.without item.id 1)
  | fills {item : Item} (held : state.findItem? id = some item) (key : slot.isKey = true)
      (bare : state.player.equipment.item? slot = none) :
      Equips state id slot (.ok none) ((state.without item.id 1).wearing slot item)
  | replaces {item previous : Item} {grown : List Item} (held : state.findItem? id = some item)
      (key : slot.isKey = true) (worn : state.player.equipment.item? slot = some previous)
      (grows : Enters { previous with quantity := 1 } (state.without item.id 1).inventory grown) :
      Equips state id slot (.ok (some previous))
        (((state.without item.id 1).wearing slot item).holding grown)
  /-- What was worn before cannot be put back, and is gone. -/
  | loses {item previous : Item} {fault : Fault} (held : state.findItem? id = some item)
      (key : slot.isKey = true) (worn : state.player.equipment.item? slot = some previous) :
      Equips state id slot (.error fault) ((state.without item.id 1).wearing slot item)

theorem equip_ends {id slot : Document} {r : Except Fault (Option Item)}
    (ends : outcome (equip id slot) stage = (r, stage')) :
    Equips stage.state id slot r stage'.state := by
  unfold equip at ends
  rw [outcome_bind_of_ok (outcome_state stage)] at ends
  cases found : stage.state.findItem? id with
  | none =>
    rw [found] at ends
    cases ends
    exact .absent found
  | some item =>
    rw [found] at ends
    obtain ⟨between, takes, left⟩ := takeItem_ends item.id 1 stage
    dsimp only at ends
    rw [outcome_bind_of_ok takes, outcome_bind, outcome_lift, Document.checkKey] at ends
    cases key : slot.isKey with
    | false =>
      rw [key] at ends
      cases ends
      rw [left]
      exact .noSlot found key
    | true =>
      rw [key] at ends
      have same : between.state.player.equipment = stage.state.player.equipment := by
        rw [left]
        rfl
      obtain ⟨worn, puts, wearing⟩ : ∃ worn, outcome (Action.modifyPlayer fun player =>
          { player with equipment := player.equipment.put slot { item with quantity := 1 } })
            between = (.ok (), worn) ∧ worn.state = between.state.wearing slot item :=
        ⟨_, rfl, rfl⟩
      rw [left] at wearing
      change outcome _ between = _ at ends
      rw [outcome_bind_of_ok (outcome_state between), outcome_bind_of_ok puts, same] at ends
      cases previous : stage.state.player.equipment.item? slot with
      | none =>
        rw [previous] at ends
        cases ends
        rw [wearing]
        exact .fills found key previous
      | some old =>
        rw [previous] at ends
        rcases giveBack_ends ends with ⟨fault, rfl, kept⟩ | ⟨grown, enters, rfl, put⟩
        · rw [kept, wearing]
          exact .loses found key previous
        · rw [wearing] at enters put
          rw [put]
          exact .replaces found key previous enters

/-- How taking off what is in a slot may end. -/
inductive Unequips (state : GameState) (slot : Document) :
    Except Fault (Option Item) → GameState → Prop
  | keeps {fault : Fault} : Unequips state slot (.error fault) state
  | nothing : Unequips state slot (.ok none) state
  | bares {item : Item} {grown : List Item} (key : slot.isKey = true)
      (worn : state.player.equipment.item? slot = some item) (room : state.hasRoom 1 = true)
      (grows : Enters { item with quantity := 1 } state.inventory grown) :
      Unequips state slot (.ok (some item)) ((state.baring slot).holding grown)
  /-- What was worn cannot be put back, and is gone. -/
  | loses {item : Item} {fault : Fault} (key : slot.isKey = true)
      (worn : state.player.equipment.item? slot = some item) :
      Unequips state slot (.error fault) (state.baring slot)

theorem unequip_ends {slot : Document} {r : Except Fault (Option Item)}
    (ends : outcome (unequip slot) stage = (r, stage')) :
    Unequips stage.state slot r stage'.state := by
  unfold unequip at ends
  rw [outcome_bind, outcome_lift, Document.checkKey] at ends
  cases key : slot.isKey with
  | false =>
    rw [key] at ends
    cases ends
    exact .keeps
  | true =>
    rw [key] at ends
    change outcome _ stage = _ at ends
    rw [outcome_bind_of_ok (outcome_state stage)] at ends
    cases worn : stage.state.player.equipment.item? slot with
    | none =>
      rw [worn] at ends
      cases ends
      exact .nothing
    | some item =>
      rw [worn] at ends
      dsimp only at ends
      split at ends
      · rename_i room
        obtain ⟨bare, clears, baring⟩ : ∃ bare, outcome (Action.modifyPlayer fun player =>
            { player with equipment := player.equipment.clear slot }) stage = (.ok (), bare) ∧
              bare.state = stage.state.baring slot := ⟨_, rfl, rfl⟩
        rw [outcome_bind_of_ok clears] at ends
        rcases giveBack_ends ends with ⟨fault, rfl, kept⟩ | ⟨grown, enters, rfl, put⟩
        · rw [kept, baring]
          exact .loses key worn
        · rw [baring] at enters put
          rw [put]
          exact .bares key worn room enters
      · cases ends
        exact .nothing

end Inventory

/-! ## Using -/

namespace Item

/-- Not a use by which something was put on. -/
abbrev Unworn (use : ItemUse) : Prop :=
  use.equipped = false

theorem usePotion_unworn (item : Item) (properties : Fields) :
    Result.Gives Unworn (item.usePotion properties) :=
  .bind (.anything _) fun _ _ => .pure rfl

theorem useFood_unworn (item : Item) (properties : Fields) :
    Result.Gives Unworn (item.useFood properties) :=
  .bind (.anything _) fun _ _ => .pure rfl

theorem useTool_unworn (item : Item) (properties : Fields) : Unworn (item.useTool properties) := by
  unfold useTool
  split <;> rfl

theorem useBook_unworn (item : Item) (properties : Fields) :
    Result.Gives Unworn (item.useBook properties) :=
  .bind (.anything _) fun _ _ => .bind (.anything _) fun _ _ => .pure rfl

theorem useScroll_unworn (item : Item) (properties : Fields) (mana : Int) :
    Result.Gives Unworn (item.useScroll properties mana) := by
  refine .bind (.anything _) fun cost _ => ?_
  split
  · exact .pure rfl
  · exact .pure rfl

theorem wear_ends {item : Item} {message : String} {slot : Document} {stage stage' : Stage}
    {r : Except Fault ItemUse} (ends : outcome (item.wear message slot) stage = (r, stage')) :
    ∃ given, Inventory.Equips stage.state item.id slot given stage'.state ∧
      ∀ use, r = .ok use → use.equipped = true ∧ ∃ previous, given = .ok previous := by
  rw [wear, outcome_bind] at ends
  rcases equips : outcome (Inventory.equip item.id slot) stage with ⟨given, between⟩
  rw [equips] at ends
  cases given with
  | error fault =>
    cases ends
    exact ⟨_, Inventory.equip_ends equips, fun _ failed => nomatch failed⟩
  | ok previous =>
    cases ends
    refine ⟨_, Inventory.equip_ends equips, fun use used => ?_⟩
    cases used
    exact ⟨rfl, previous, rfl⟩

/-- Using an item by its type puts it on, or does nothing to the state. -/
theorem useByType_ends {item : Item} {stage stage' : Stage} {r : Except Fault ItemUse}
    (ends : outcome item.useByType stage = (r, stage')) :
    (stage' = stage ∧ ∀ use, r = .ok use → use.equipped = false) ∨
      ∃ slot given, Inventory.Equips stage.state item.id slot given stage'.state ∧
        ∀ use, r = .ok use → use.equipped = true ∧ ∃ previous, given = .ok previous := by
  have idle {c : Action ItemUse} (upholds : Upholds (· = stage) Unworn c)
      (ends : outcome c stage = (r, stage')) :
      stage' = stage ∧ ∀ use, r = .ok use → use.equipped = false :=
    upholds.of_outcome rfl ends
  have lift {α : Type} {gives : α → Prop} {result : Result α} (h : result.Gives gives) :
      Upholds (· = stage) gives (liftM result : Action α) :=
    .of_result (Action.outcome_lift result) h
  have fields : Upholds (· = stage) Anything (liftM (item.properties.fields "get") : Action Fields) :=
    lift (.anything _)
  unfold useByType at ends
  dsimp only at ends
  split at ends
  · exact .inl (idle (.bind fields fun _ _ => lift (usePotion_unworn _ _)) ends)
  · exact .inl (idle (.bind fields fun _ _ => lift (useFood_unworn _ _)) ends)
  · exact .inr ⟨_, wear_ends ends⟩
  · rw [outcome_bind, Action.outcome_lift] at ends
    cases read : item.properties.fields "get" with
    | error fault =>
      rw [read] at ends
      cases ends
      exact .inl ⟨rfl, fun _ failed => nomatch failed⟩
    | ok properties =>
      rw [read] at ends
      exact .inr ⟨_, wear_ends ends⟩
  · exact .inl (idle (.bind fields fun _ _ => .pure (useTool_unworn _ _)) ends)
  · exact .inl (idle (.bind fields fun _ _ => .pure rfl) ends)
  · exact .inl (idle (.bind fields fun _ _ => lift (useBook_unworn _ _)) ends)
  · exact .inl (idle (.bind fields fun _ _ => .bind (.bind .get fun _ _ => .pure trivial)
      fun (_ : GameState) (_ : True) => lift (useScroll_unworn _ _ _)) ends)
  · exact .inl (idle (.bind (lift (.anything _)) fun _ _ => .pure rfl) ends)

end Item

namespace Inventory

/-- How using what an id names may end. -/
inductive Uses (state : GameState) (id : Document) : Except Fault ItemUse → GameState → Prop
  | keeps {r : Except Fault ItemUse} (whole : ∀ use, r = .ok use → use.consumed = false) :
      Uses state id r state
  | wears {item : Item} {slot : Document} {given : Except Fault (Option Item)} {left : GameState}
      {r : Except Fault ItemUse} (equips : Equips state item.id slot given left)
      (whole : ∀ use, r = .ok use → use.consumed = false ∧ ∃ previous, given = .ok previous) :
      Uses state id r left
  | consumes {item : Item} {use : ItemUse} (held : state.findItem? id = some item)
      (consumed : use.consumed = true) : Uses state id (.ok use) (state.without item.id 1)

/-- After a use the item is used up or it is not; what was put on never is. -/
theorem useUp_ends {item : Item} {use : ItemUse} {stage stage' : Stage} {r : Except Fault ItemUse}
    (ends : outcome (do
      let consumable := (← item.properties.fields "get").getD "consumable"
        (.bool (Item.isConsumableType item.type))
      let consumed := use.success && consumable.isTruthy && !use.equipped
      if consumed then takeItem item.id 1
      Action.publish (.itemUsed item.id use.success use.message)
      pure { use with consumed } : Action ItemUse) stage = (r, stage')) :
    (∃ fault, r = .error fault ∧ stage'.state = stage.state) ∨
      ∃ consumed, r = .ok { use with consumed } ∧ (use.equipped = true → consumed = false) ∧
        stage'.state = if consumed then stage.state.without item.id 1 else stage.state := by
  rw [outcome_bind, Action.outcome_lift] at ends
  cases read : item.properties.fields "get" with
  | error fault =>
    rw [read] at ends
    cases ends
    exact .inl ⟨fault, rfl, rfl⟩
  | ok properties =>
    rw [read] at ends
    dsimp only at ends
    generalize isConsumed : (use.success && Document.isTruthy _ && !use.equipped) = consumed at ends
    cases consumed with
    | false =>
      cases ends
      exact .inr ⟨false, rfl, fun _ => rfl, rfl⟩
    | true =>
      obtain ⟨last, takes, left⟩ := takeItem_ends item.id 1 stage
      rw [if_pos rfl, outcome_bind_of_ok takes] at ends
      cases ends
      refine .inr ⟨true, rfl, fun equipped => ?_, left⟩
      rw [equipped] at isConsumed
      simp at isConsumed

theorem useItem_ends {id : Document} {stage stage' : Stage} {r : Except Fault ItemUse}
    (ends : outcome (useItem id) stage = (r, stage')) :
    Uses stage.state id r stage'.state := by
  unfold useItem at ends
  rw [outcome_bind_of_ok (Action.outcome_state stage)] at ends
  cases found : stage.state.findItem? id with
  | none =>
    rw [found] at ends
    cases ends
    refine .keeps fun use used => ?_
    cases used
    rfl
  | some item =>
    rw [found] at ends
    rcases typed : outcome item.useByType stage with ⟨given, between⟩
    have either := Item.useByType_ends typed
    cases given with
    | error fault =>
      rw [outcome_bind_of_error typed] at ends
      cases ends
      rcases either with ⟨rfl, -⟩ | ⟨slot, given, equips, -⟩
      · exact .keeps fun _ failed => nomatch failed
      · exact .wears equips fun _ failed => nomatch failed
    | ok use =>
      rw [outcome_bind_of_ok typed] at ends
      rcases useUp_ends ends with ⟨fault, rfl, kept⟩ | ⟨consumed, rfl, unworn, left⟩
      · rw [kept]
        rcases either with ⟨rfl, -⟩ | ⟨slot, given, equips, -⟩
        · exact .keeps fun _ failed => nomatch failed
        · exact .wears equips fun _ failed => nomatch failed
      · rw [left]
        rcases either with ⟨rfl, -⟩ | ⟨slot, given, equips, worn⟩
        · cases consumed with
          | true => exact .consumes found rfl
          | false =>
            refine .keeps fun use' used => ?_
            cases used
            rfl
        · obtain ⟨equipped, previous, gives⟩ := worn use rfl
          obtain rfl := unworn equipped
          refine .wears equips fun use' used => ?_
          cases used
          exact ⟨rfl, previous, gives⟩

end Inventory

end InteractiveFiction
