import InteractiveFiction.Proofs.Inventory.Calls
import InteractiveFiction.Proofs.Number.Order
import Mathlib.Data.List.Induction

/-!
The limits of stacks.

An item that arrives is put onto a stack by the limit that the item gives; the stack keeps a limit
of its own.  Where items of one id come with different limits, a stack may so come to hold more
than its author allowed, and there is no other way.

* `Inventory.insert_placed`: which stack an item joins, and what the inventory is then.
* `Inventory.withinLimits_placed_iff`: only the stack that an item joins can be overfilled by it.
* `InventoryCall.within_limits_iff`: so it is along any additions, accepted or not.
-/

set_option autoImplicit false

namespace InteractiveFiction

open Course

/-! ## Limits -/

namespace Item

/-- Whether so many things are no more than the limit that an item gives. -/
def allows (item : Item) (quantity : Int) : Bool :=
  (Inventory.stackLimit item).number?.any fun limit => (Number.int quantity).le limit

/-- A stack holds no more than its own limit. -/
def WithinLimit (item : Item) : Prop :=
  item.stackable = true → item.allows item.quantity = true

instance (item : Item) : Decidable item.WithinLimit :=
  inferInstanceAs (Decidable (item.stackable = true → item.allows item.quantity = true))

/-- What is to be stacked is something, and no more than its own limit. -/
def Addable (item : Item) : Prop :=
  item.stackable = true → 1 ≤ item.quantity ∧ item.allows item.quantity = true

instance (item : Item) : Decidable item.Addable :=
  inferInstanceAs (Decidable
    (item.stackable = true → 1 ≤ item.quantity ∧ item.allows item.quantity = true))

theorem Addable.withinLimit {item : Item} (h : item.Addable) : item.WithinLimit :=
  fun stackable => (h stackable).2

theorem allows_of_le {item : Item} {few many : Int} (fewer : few ≤ many)
    (h : item.allows many = true) : item.allows few = true := by
  unfold allows at h ⊢
  cases numeric : (Inventory.stackLimit item).number? with
  | none =>
    rw [numeric] at h
    cases h
  | some limit =>
    rw [numeric] at h
    exact Number.int_le_of_le fewer h

/-- An item put onto an entry, which stays as it is but for its quantity. -/
def onto (item entry : Item) : Item :=
  { entry with quantity := entry.quantity + item.quantity }

/-- Whether an item that arrives may be put onto an entry. -/
def joins (item entry : Item) : Bool :=
  entry.id == item.id && entry.stackable && item.allows (entry.quantity + item.quantity)

end Item

namespace Inventory

/-! ## The stack that an item joins -/

/-- What an item joins is the first stack of its id with room, by the limit of the item. -/
def joined? (items : List Item) (item : Item) : Option Item :=
  if item.stackable then items.find? item.joins else none

/-- With a limit that is a number, comparing gives an answer. -/
theorem fits_of_allows {item : Item} {quantity : Int} (own : item.allows quantity = true)
    (total : Int) : fits total (stackLimit item) = .ok (item.allows total) := by
  unfold Item.allows at own ⊢
  unfold fits
  cases numeric : (stackLimit item).number? with
  | none =>
    rw [numeric] at own
    cases own
  | some limit => rfl

theorem merge_cons {item : Item} (own : item.allows item.quantity = true) (entry : Item)
    (entries : List Item) :
    merge item (entry :: entries) =
      if item.joins entry then .ok (some (item.onto entry :: entries))
      else (do pure ((← merge item entries).map (entry :: ·))) := by
  rw [merge, fits_of_allows own, Item.joins]
  cases entry.id == item.id && entry.stackable with
  | false => rfl
  | true =>
    cases item.allows (entry.quantity + item.quantity) <;> rfl

theorem merge_of_joins {item entry : Item} (own : item.allows item.quantity = true)
    (joins : item.joins entry = true) {front : List Item}
    (ahead : ∀ other ∈ front, (!item.joins other) = true) (back : List Item) :
    merge item (front ++ entry :: back) = .ok (some (front ++ item.onto entry :: back)) := by
  induction front with
  | nil =>
    rw [List.nil_append, merge_cons own, if_pos joins]
    rfl
  | cons other front ih =>
    obtain ⟨first, others⟩ := List.forall_mem_cons.1 ahead
    rw [List.cons_append, merge_cons own, if_neg (by simpa using first), ih others]
    rfl

theorem merge_of_none {item : Item} (own : item.allows item.quantity = true) {items : List Item}
    (full : ∀ entry ∈ items, ¬item.joins entry = true) : merge item items = .ok none := by
  induction items with
  | nil => rfl
  | cons entry entries ih =>
    obtain ⟨first, others⟩ := List.forall_mem_cons.1 full
    rw [merge_cons own, if_neg first, ih others]
    rfl

/-- Which stack an item joins decides what an inventory becomes when the item is put into it. -/
inductive Placed (item : Item) (items : List Item) : List Item → Prop
  | joins {front back : List Item} {entry : Item} (place : items = front ++ entry :: back)
      (first : joined? items item = some entry) :
      Placed item items (front ++ item.onto entry :: back)
  | follows (full : joined? items item = none) : Placed item items (items ++ [item])

/-- The inventory with one more item, if it can be put in. -/
def placed (items : List Item) (item : Item) : List Item :=
  match insert items item with
  | .ok grown => grown
  | .error _ => items

theorem insert_placed {item : Item} (addable : item.Addable) (items : List Item) :
    insert items item = .ok (placed items item) ∧ Placed item items (placed items item) := by
  suffices ends : ∃ grown, insert items item = .ok grown ∧ Placed item items grown by
    obtain ⟨grown, puts, here⟩ := ends
    have same : placed items item = grown := by
      unfold placed
      rw [puts]
    rw [same]
    exact ⟨puts, here⟩
  unfold insert
  by_cases stackable : item.stackable = true
  · have own := (addable stackable).2
    rw [if_pos stackable]
    cases first : items.find? item.joins with
    | some entry =>
      obtain ⟨joins, front, back, rfl, ahead⟩ := List.find?_eq_some_iff_append.1 first
      rw [merge_of_joins own joins ahead back]
      exact ⟨_, rfl, .joins rfl ((if_pos stackable).trans first)⟩
    | none =>
      rw [merge_of_none own (List.find?_eq_none.1 first)]
      exact ⟨_, rfl, .follows ((if_pos stackable).trans first)⟩
  · rw [if_neg stackable]
    exact ⟨_, rfl, .follows (if_neg stackable)⟩

theorem joins_of_joined? {items : List Item} {item entry : Item}
    (h : joined? items item = some entry) :
    item.stackable = true ∧ item.joins entry = true ∧ entry ∈ items := by
  unfold joined? at h
  split at h
  · rename_i stackable
    exact ⟨stackable, List.find?_some h, List.mem_of_find?_eq_some h⟩
  · cases h

/-! ## Keeping to the limits -/

def WithinLimits (items : List Item) : Prop :=
  ∀ entry ∈ items, entry.WithinLimit

instance (items : List Item) : Decidable (WithinLimits items) :=
  inferInstanceAs (Decidable (∀ entry ∈ items, entry.WithinLimit))

/-- An item finds a place where the limits are kept: no stack takes it in, or one that has room for
it by its own limit too. -/
def Suits (items : List Item) (item : Item) : Prop :=
  ∀ entry ∈ joined? items item, (item.onto entry).WithinLimit

instance (items : List Item) (item : Item) : Decidable (Suits items item) :=
  inferInstanceAs (Decidable (∀ entry ∈ joined? items item, (item.onto entry).WithinLimit))

/-- Stacks that something is put onto were within their limits if they are so afterwards. -/
theorem withinLimits_placed_iff {items : List Item} {item : Item} (addable : item.Addable) :
    WithinLimits (placed items item) ↔ WithinLimits items ∧ Suits items item := by
  have ends := (insert_placed addable items).2
  generalize placed items item = grown at ends
  cases ends with
  | @joins front back entry place first =>
    subst place
    obtain ⟨stackable, -, -⟩ := joins_of_joined? first
    have more := (addable stackable).1
    have before : (item.onto entry).WithinLimit → entry.WithinLimit := fun within own =>
      Item.allows_of_le (by dsimp only [Item.onto]; omega) (within own)
    have suits : Suits (front ++ entry :: back) item ↔ (item.onto entry).WithinLimit := by
      simp [Suits, first]
    rw [suits]
    unfold WithinLimits
    simp only [List.forall_mem_append, List.forall_mem_cons]
    constructor
    · rintro ⟨inFront, within, inBack⟩
      exact ⟨⟨inFront, before within, inBack⟩, within⟩
    · rintro ⟨⟨inFront, -, inBack⟩, within⟩
      exact ⟨inFront, within, inBack⟩
  | follows full =>
    have suits : Suits items item := fun entry taken => by
      rw [full] at taken
      cases taken
    unfold WithinLimits
    simp only [List.forall_mem_append, List.forall_mem_singleton]
    exact ⟨fun h => ⟨h.1, suits⟩, fun h => ⟨h.1, addable.withinLimit⟩⟩

/-! ## Items that arrive one after another -/

/-- What items make that are put into an empty inventory. -/
def piled (items : List Item) : List Item :=
  items.foldl placed []

theorem piled_concat (items : List Item) (item : Item) :
    piled (items ++ [item]) = placed (piled items) item :=
  List.foldl_append

/-- Stacks are within their limits exactly if every item found a place that suits it. -/
theorem withinLimits_piled_iff {items : List Item} (addable : ∀ item ∈ items, item.Addable) :
    WithinLimits (piled items) ↔
      ∀ before item, before ++ [item] <+: items → Suits (piled before) item := by
  induction items using List.reverseRecOn with
  | nil => simp [piled, WithinLimits]
  | append_singleton items last ih =>
    obtain ⟨others, own⟩ := List.forall_mem_append.1 addable
    rw [piled_concat, withinLimits_placed_iff (own last (List.mem_singleton_self last)), ih others]
    simp only [List.prefix_concat_iff]
    constructor
    · rintro ⟨earlier, suits⟩ before item (same | among)
      · obtain ⟨rfl, single⟩ := List.append_inj' same rfl
        cases single
        exact suits
      · exact earlier before item among
    · intro all
      exact ⟨fun before item among => all before item (.inr among), all items last (.inl rfl)⟩

/-- Items to stack that have one id have one limit. -/
def OneLimit (items : List Item) : Prop :=
  ∀ item ∈ items, ∀ other ∈ items, item.stackable = true → other.stackable = true →
    item.id = other.id → stackLimit item = stackLimit other

/-- Every entry is one of the items that arrived, but for its quantity. -/
theorem kind_of_mem_piled {items : List Item} (addable : ∀ item ∈ items, item.Addable)
    {entry : Item} (mem : entry ∈ piled items) :
    ∃ item ∈ items, ∃ quantity, entry = { item with quantity } := by
  induction items using List.reverseRecOn generalizing entry with
  | nil => cases mem
  | append_singleton items last ih =>
    obtain ⟨others, own⟩ := List.forall_mem_append.1 addable
    have ends := (insert_placed (own last (List.mem_singleton_self last)) (piled items)).2
    have earlier : ∀ entry ∈ piled items,
        ∃ item ∈ items ++ [last], ∃ quantity, entry = { item with quantity } := by
      intro entry mem
      obtain ⟨item, among, quantity, same⟩ := ih others mem
      exact ⟨item, List.mem_append_left _ among, quantity, same⟩
    rw [piled_concat] at mem
    generalize placed (piled items) last = grown at ends mem
    cases ends with
    | @joins front back stack place first =>
      rw [place] at earlier
      obtain ⟨inFront, behind⟩ := List.forall_mem_append.1 earlier
      obtain ⟨here, inBack⟩ := List.forall_mem_cons.1 behind
      rcases List.mem_append.1 mem with mem | mem
      · exact inFront entry mem
      · rcases List.mem_cons.1 mem with rfl | mem
        · obtain ⟨item, among, quantity, rfl⟩ := here
          exact ⟨item, among, _, rfl⟩
        · exact inBack entry mem
    | follows full =>
      rcases List.mem_append.1 mem with mem | mem
      · exact earlier entry mem
      · obtain rfl := List.mem_singleton.1 mem
        exact ⟨entry, List.mem_append_right _ (List.mem_singleton_self entry), _, rfl⟩

theorem withinLimits_of_oneLimit {items : List Item} (addable : ∀ item ∈ items, item.Addable)
    (one : OneLimit items) : WithinLimits (piled items) := by
  rw [withinLimits_piled_iff addable]
  intro before item among entry taken stackable
  have here : item ∈ items := among.subset (List.mem_append_right _ (List.mem_singleton_self item))
  have ahead : ∀ earlier ∈ before, earlier ∈ items := fun earlier mem =>
    among.subset (List.mem_append_left _ mem)
  obtain ⟨own, joins, mem⟩ := joins_of_joined? taken
  obtain ⟨earlier, arrived, quantity, rfl⟩ :=
    kind_of_mem_piled (fun earlier mem => addable earlier (ahead earlier mem)) mem
  unfold Item.joins at joins
  simp only [Bool.and_eq_true, beq_iff_eq] at joins
  obtain ⟨⟨same, held⟩, room⟩ := joins
  have limit := one item here earlier (ahead earlier arrived) own held same.symm
  have kept : stackLimit (item.onto { earlier with quantity }) = stackLimit item := limit.symm
  unfold Item.allows at room ⊢
  rw [kept]
  exact room

/-! ## Additions -/

theorem insertAll_of_addable {items : List Item} (addable : ∀ item ∈ items, item.Addable)
    (stage : Stage) :
    ∃ stage', outcome (forIn items PUnit.unit fun item _ => do
        insertItem item
        pure (ForInStep.yield PUnit.unit)) stage = (.ok PUnit.unit, stage') ∧
      stage'.state = stage.state.holding (items.foldl placed stage.state.inventory) := by
  induction items generalizing stage with
  | nil => exact ⟨stage, rfl, rfl⟩
  | cons item items ih =>
    obtain ⟨own, others⟩ := List.forall_mem_cons.1 addable
    obtain ⟨puts, -⟩ := insert_placed own stage.state.inventory
    rcases inserts : outcome (insertItem item) stage with ⟨r, between⟩
    rcases insertItem_ends inserts with ⟨fault, fails, -⟩ | ⟨grown, grows, rfl, left⟩
    · rw [puts] at fails
      cases fails
    · rw [puts] at grows
      cases grows
      obtain ⟨stage', putsAll, rest⟩ := ih others between
      refine ⟨stage', ?_, ?_⟩
      · rw [List.forIn_cons, outcome_bind, outcome_bind_of_ok inserts]
        exact putsAll
      · rw [rest, left]
        rfl

/-- What comes in when items are added: all of them, or none where there is no room for all. -/
def admitted (items : List Item) (state : GameState) : List Item :=
  if state.hasRoom (used items) then items else []

theorem inventory_addItems {items : List Item} (addable : ∀ item ∈ items, item.Addable)
    (stage : Stage) :
    (after (addItems items) stage).state.inventory =
      (admitted items stage.state).foldl placed stage.state.inventory := by
  unfold admitted
  by_cases room : stage.state.hasRoom (used items) = true
  · obtain ⟨stage', puts, left⟩ := insertAll_of_addable addable stage
    have ends : outcome (addItems items) stage = (.ok true, stage') := by
      unfold addItems
      rw [outcome_bind_of_ok (Action.outcome_state stage)]
      dsimp only
      rw [if_pos room, outcome_bind_of_ok puts]
      rfl
    rw [after, ends, left, if_pos room]
    rfl
  · have ends : outcome (addItems items) stage =
        (.ok false, stage.publish (.inventoryFull (items.map Item.id) (used items)
          stage.state.player.inventoryCapacity)) := by
      unfold addItems
      rw [outcome_bind_of_ok (Action.outcome_state stage)]
      dsimp only
      rw [if_neg room]
      rfl
    rw [after, ends, if_neg room]
    rfl

end Inventory

namespace InventoryCall

open Inventory

/-- What comes in by additions made one after another. -/
def arrivals : List (List Item) → Stage → List Item
  | [], _ => []
  | items :: additions, stage =>
    admitted items stage.state ++ arrivals additions (after (addItems items) stage)

theorem arrivals_subset (additions : List (List Item)) (stage : Stage) :
    ∀ item ∈ arrivals additions stage, item ∈ additions.flatten := by
  induction additions generalizing stage with
  | nil => nofun
  | cons items additions ih =>
    intro item mem
    rw [List.flatten_cons]
    rcases List.mem_append.1 mem with mem | mem
    · unfold admitted at mem
      split at mem
      · exact List.mem_append_left _ mem
      · cases mem
    · exact List.mem_append_right _ (ih _ item mem)

theorem inventory_afterAll {additions : List (List Item)}
    (addable : ∀ item ∈ additions.flatten, item.Addable) (stage : Stage) :
    (afterAll (additions.map add) stage).state.inventory =
      (arrivals additions stage).foldl placed stage.state.inventory := by
  induction additions generalizing stage with
  | nil => rfl
  | cons items additions ih =>
    obtain ⟨own, others⟩ := List.forall_mem_append.1 addable
    rw [arrivals, List.foldl_append, ← inventory_addItems own]
    exact ih others (after (addItems items) stage)

/-! ## A basket of herbs -/

namespace Basket

/-- Nothing is in it yet, and fifty things have room. -/
def bare : Stage where
  now := 0
  state := GameState.starting 0 "game" "forest" "glade" "Ann" {}

def herbs (quantity : Int) (limit : Option Document) : Item :=
  { id := "herb", name := "Herb", quantity, stackable := true, maxStack := limit }

def stick : Item :=
  { id := "stick", name := "Stick" }

/-- Herbs of which no more than four go into a bunch, herbs of which nothing is said, and more than
there is room for. -/
def gathered : List (List Item) :=
  [[herbs 3 (some (.int 4)), stick], [herbs 1 none], [herbs 60 none], [herbs 3 (some (.int 4))]]

end Basket

/-! ## Along any additions -/

/-- From an empty inventory, by additions of something within its own limit each time: the stacks
are within their limits exactly if no item that came in overfilled the stack that it joined, and so
they are where items of one id have one limit. -/
theorem within_limits_iff {stage : Stage} (start : stage.state.inventory = [])
    {additions : List (List Item)} (addable : ∀ item ∈ additions.flatten, item.Addable) :
    (WithinLimits (afterAll (additions.map add) stage).state.inventory ↔
        ∀ before item, before ++ [item] <+: arrivals additions stage →
          Suits (piled before) item) ∧
      (OneLimit additions.flatten →
        WithinLimits (afterAll (additions.map add) stage).state.inventory) := by
  have subset := arrivals_subset additions stage
  have arriving : ∀ item ∈ arrivals additions stage, item.Addable := fun item mem =>
    addable item (subset item mem)
  have left : (afterAll (additions.map add) stage).state.inventory =
      piled (arrivals additions stage) := by
    rw [inventory_afterAll addable, start]
    rfl
  rw [left]
  refine ⟨withinLimits_piled_iff arriving, fun one => withinLimits_of_oneLimit arriving ?_⟩
  exact fun item mem other mem' => one item (subset item mem) other (subset other mem')

/-- A bunch that is filled up by herbs of which nothing is said; what then comes starts another. -/
theorem herbs_suit_basket :
    Basket.bare.state.inventory = [] ∧ (∀ item ∈ Basket.gathered.flatten, item.Addable) ∧
      (afterAll (Basket.gathered.map add) Basket.bare).state.inventory =
        [Basket.herbs 4 (some (.int 4)), Basket.stick, Basket.herbs 3 (some (.int 4))] ∧
      ∀ before item, before ++ [item] <+: arrivals Basket.gathered Basket.bare →
        Suits (piled before) item := by
  have addable : ∀ item ∈ Basket.gathered.flatten, item.Addable := by decide +kernel
  exact ⟨rfl, addable, by decide +kernel,
    (within_limits_iff rfl addable).1.1 (by decide +kernel)⟩

/-- Three herbs of which four make a bunch, and three of which nothing is said, are put into one
bunch of six. -/
theorem herbs_overfill_bunch :
    Basket.bare.state.inventory = [] ∧
      (∀ item ∈ [[Basket.herbs 3 (some (.int 4))], [Basket.herbs 3 none]].flatten,
        item.Addable) ∧
      (afterAll [add [Basket.herbs 3 (some (.int 4))], add [Basket.herbs 3 none]]
        Basket.bare).state.inventory = [Basket.herbs 6 (some (.int 4))] ∧
      ¬(Basket.herbs 6 (some (.int 4))).WithinLimit := by
  decide +kernel

end InventoryCall

end InteractiveFiction
