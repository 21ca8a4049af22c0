import InteractiveFiction.Proofs.Inventory.Ends
import InteractiveFiction.Proofs.Inventory.Quantity
import InteractiveFiction.Proofs.Number.Order

/-!
What a player has, in the inventory and worn, and the room it takes.

* `Equipment.items`: what is worn; what is put into a slot takes the place of what was there
  (`Equipment.items_put_of_some`).
* `GameState.has`: how many things of an id a player has.
* `GameState.Stocked`: no entry stands for nothing, and what is worn is one thing in each slot.
* `GameState.InRoom`: the inventory holds no more than it may.

Wearing and using move things about: nothing is lost or made unless it is used up, and an exchange
takes no more room than there was.
-/

set_option autoImplicit false

namespace InteractiveFiction

/-! ## What is worn

Counted as an inventory is.  A slot that can be a key names one entry of an equipment at most.  What is
put into it takes the place of that entry, and clearing it takes away that entry alone. -/

namespace Equipment

def items (worn : Equipment) : List Item :=
  worn.entries.map Prod.snd

/-- What was found in a slot is the only entry of that slot. -/
theorem split_of_item? {worn : Equipment} {slot : Document} {item : Item}
    (key : slot.isKey = true) (found : worn.item? slot = some item) :
    ∃ front name back, worn.entries = front ++ (name, item) :: back ∧
      name.equals slot = true ∧ ∀ entry ∈ front ++ back, entry.1.equals slot = false := by
  obtain ⟨⟨name, held⟩, first, rfl⟩ := Option.map_eq_some_iff.1 found
  obtain ⟨own, front, back, place, before⟩ := List.find?_eq_some_iff_append.1 first
  refine ⟨front, name, back, place, own, fun entry mem => ?_⟩
  rcases List.mem_append.1 mem with inFront | inBack
  · simpa using before entry inFront
  · have distinct := worn.distinct
    rw [place] at distinct
    have apart : name.equals entry.1 = false :=
      (List.pairwise_cons.1 (List.pairwise_append.1 distinct).2.1).1 entry inBack
    cases other : entry.1.equals slot with
    | false => rfl
    | true =>
      have same := Document.equals_of_equals key own other
      rw [apart] at same
      cases same

theorem unworn_of_item? {worn : Equipment} {slot : Document} (found : worn.item? slot = none) :
    ∀ entry ∈ worn.entries, entry.1.equals slot = false := by
  intro entry mem
  have none := List.find?_eq_none.1 (Option.map_eq_none_iff.1 found) entry mem
  simpa using none

theorem replace_of_other {slot : Document} {item : Item} {entry : Document × Item}
    (other : entry.1.equals slot = false) : replace slot item entry = entry := by
  rw [replace, other]
  rfl

theorem map_replace_others {slot : Document} (item : Item) {entries : List (Document × Item)}
    (others : ∀ entry ∈ entries, entry.1.equals slot = false) :
    entries.map (replace slot item) = entries := by
  rw [List.map_congr_left fun entry mem => replace_of_other (others entry mem), List.map_id']

theorem filter_others {slot : Document} {entries : List (Document × Item)}
    (others : ∀ entry ∈ entries, entry.1.equals slot = false) :
    (entries.filter fun entry => !entry.1.equals slot) = entries := by
  rw [List.filter_eq_self]
  intro entry mem
  rw [others entry mem]
  rfl

section Put

variable {worn : Equipment} {slot : Document}

theorem items_put_of_none (item : Item) (found : worn.item? slot = none) :
    (worn.put slot item).items = worn.items ++ [item] := by
  have unworn : ¬ worn.isWorn slot = true := by
    rw [isWorn, List.any_eq_true]
    rintro ⟨entry, mem, own⟩
    rw [unworn_of_item? found entry mem] at own
    cases own
  rw [put, dif_neg unworn, items, items, List.map_append]
  rfl

/-- What is put into a slot stands where what was there stood. -/
theorem items_put_of_some (item : Item) {previous : Item} (key : slot.isKey = true)
    (found : worn.item? slot = some previous) :
    ∃ front back, worn.items = front ++ previous :: back ∧
      (worn.put slot item).items = front ++ item :: back ∧
      (worn.clear slot).items = front ++ back := by
  obtain ⟨front, name, back, place, own, others⟩ := split_of_item? key found
  obtain ⟨before, behind⟩ := List.forall_mem_append.1 others
  have isWorn : worn.isWorn slot = true :=
    List.any_eq_true.2 ⟨(name, previous), by rw [place]; simp, own⟩
  refine ⟨front.map Prod.snd, back.map Prod.snd, ?_, ?_, ?_⟩
  · rw [items, place, List.map_append]
    rfl
  · have entries : (worn.put slot item).entries = worn.entries.map (replace slot item) := by
      rw [put, dif_pos isWorn]
    rw [items, entries, place, List.map_append, List.map_cons, map_replace_others item before,
      map_replace_others item behind, replace, if_pos own, List.map_append]
    rfl
  · have entries : (worn.clear slot).entries =
        worn.entries.filter fun entry => !entry.1.equals slot := rfl
    rw [items, entries, place, List.filter_append, filter_others before,
      List.filter_cons_of_neg (by simp [own]), filter_others behind, List.map_append]

end Put

end Equipment

open Inventory

/-! ## What a player has -/

namespace GameState

def has (state : GameState) (id : String) : Int :=
  count state.inventory id + count state.player.equipment.items id

structure Stocked (state : GameState) : Prop where
  held : Inventory.Stocked state.inventory
  worn : ∀ item ∈ state.player.equipment.items, item.quantity = 1

def InRoom (state : GameState) : Prop :=
  used state.inventory ≤ state.player.inventoryCapacity

instance (state : GameState) : Decidable state.InRoom :=
  inferInstanceAs (Decidable (used state.inventory ≤ state.player.inventoryCapacity))

/-! ## Amounts -/

theorem has_eq_amount (state : GameState) (id : String) :
    state.has id = amount (· == id) state.inventory +
      amount (· == id) state.player.equipment.items := by
  rw [has, count_eq_amount, count_eq_amount]

theorem usedSlots_eq (state : GameState) : state.usedSlots = used state.inventory := rfl

theorem mem_of_findItem? {state : GameState} {id : Document} {item : Item}
    (found : state.findItem? id = some item) : item ∈ state.inventory :=
  List.mem_of_find?_eq_some found

theorem id_of_findItem? {state : GameState} {id : Document} {item : Item}
    (found : state.findItem? id = some item) : id = .text item.id := by
  have same := List.find?_some found
  exact (eq_of_beq same).symm

/-! ## One thing taken from the inventory -/

section Taken

variable {state : GameState} {id : Document} {item : Item}

/-- One thing is missing afterwards, for it was there. -/
theorem amount_without_one (held : Inventory.Stocked state.inventory)
    (found : state.findItem? id = some item) (among : String → Bool) :
    amount among (state.without item.id 1).inventory + (if among item.id then 1 else 0) =
      amount among state.inventory := by
  have there := held.one_le_count (mem_of_findItem? found)
  have one : (take item.id 1 state.inventory).2.sum = 1 := by
    rw [sum_take item.id 1 held]
    omega
  have less := amount_take among item.id 1 state.inventory
  rw [one] at less
  exact less

theorem used_without_one (held : Inventory.Stocked state.inventory)
    (found : state.findItem? id = some item) :
    used (state.without item.id 1).inventory + 1 = used state.inventory := by
  rw [used_eq_amount, used_eq_amount]
  exact amount_without_one held found fun _ => true

theorem Stocked.without (h : state.Stocked) (id : String) (quantity : Int) :
    (state.without id quantity).Stocked where
  held := stocked_take id quantity h.held
  worn := h.worn

theorem InRoom.without_one (h : state.InRoom) (held : Inventory.Stocked state.inventory)
    (found : state.findItem? id = some item) : (state.without item.id 1).InRoom := by
  have less := used_without_one held found
  have room : used state.inventory ≤ state.player.inventoryCapacity := h
  change used (state.without item.id 1).inventory ≤ state.player.inventoryCapacity
  omega

end Taken

end GameState

namespace Inventory

open InteractiveFiction.GameState

/-! ## Wearing -/

theorem share_one (among : String → Bool) (item : Item) :
    Item.share among { item with quantity := 1 } = if among item.id then 1 else 0 := rfl

theorem share_of_one {item : Item} (one : item.quantity = 1) (among : String → Bool) :
    item.share among = if among item.id then 1 else 0 := by
  rw [Item.share, one]

theorem Enters.used {item : Item} {items grown : List Item} (h : Enters item items grown) :
    used grown = used items + item.quantity := by
  rw [used_eq_amount, used_eq_amount]
  exact h.amount fun _ => true

namespace Equips

variable {state left : GameState} {id slot : Document} {given : Except Fault (Option Item)}

theorem has_eq (h : Equips state id slot given left) (stocked : state.Stocked)
    {previous : Option Item} (answers : given = .ok previous) (other : String) :
    left.has other = state.has other := by
  rw [has_eq_amount, has_eq_amount]
  cases h with
  | absent _ => cases answers
  | noSlot _ _ => cases answers
  | loses _ _ _ => cases answers
  | @fills item held key bare =>
    have taken := amount_without_one stocked.held held (· == other)
    change amount _ (state.without item.id 1).inventory +
      amount _ (state.player.equipment.put slot { item with quantity := 1 }).items = _
    rw [Equipment.items_put_of_none _ bare, amount_append, amount_cons, amount_nil, share_one]
    omega
  | @replaces item previous grown held key worn grows =>
    have taken := amount_without_one stocked.held held (· == other)
    obtain ⟨front, back, before, after, -⟩ :=
      Equipment.items_put_of_some { item with quantity := 1 } key worn
    have one : previous.quantity = 1 := stocked.worn previous (by rw [before]; simp)
    have returned := grows.amount (· == other)
    change amount _ grown +
      amount _ (state.player.equipment.put slot { item with quantity := 1 }).items = _
    rw [after, before, returned]
    simp only [amount_append, amount_cons, share_one, share_of_one one]
    omega

theorem stocked_put {state : GameState} (stocked : state.Stocked) {slot : Document}
    (key : slot.isKey = true) (item : Item) :
    ∀ worn ∈ (state.player.equipment.put slot { item with quantity := 1 }).items,
      worn.quantity = 1 := by
  intro worn mem
  cases found : state.player.equipment.item? slot with
  | none =>
    rw [Equipment.items_put_of_none _ found] at mem
    rcases List.mem_append.1 mem with mem | new
    · exact stocked.worn worn mem
    · rw [List.mem_singleton.1 new]
  | some previous =>
    obtain ⟨front, back, before, after, -⟩ :=
      Equipment.items_put_of_some { item with quantity := 1 } key found
    rw [after] at mem
    have others : ∀ worn ∈ front ++ back, worn.quantity = 1 := by
      intro worn mem
      apply stocked.worn
      rw [before]
      rcases List.mem_append.1 mem with mem | mem <;> simp [mem]
    rcases List.mem_append.1 mem with mem | mem
    · exact others worn (by simp [mem])
    · rcases List.mem_cons.1 mem with rfl | mem
      · rfl
      · exact others worn (by simp [mem])

theorem stocked (h : Equips state id slot given left) (start : state.Stocked) : left.Stocked := by
  cases h with
  | absent _ => exact start
  | noSlot _ _ => exact start.without _ 1
  | fills _ key _ => exact ⟨(start.without _ 1).held, stocked_put start key _⟩
  | loses _ key _ => exact ⟨(start.without _ 1).held, stocked_put start key _⟩
  | replaces _ key _ grows =>
    exact ⟨grows.stocked (start.without _ 1).held (Int.le_refl 1), stocked_put start key _⟩

/-- What comes back takes the room of what was put on. -/
theorem inRoom (h : Equips state id slot given left) (start : state.Stocked)
    (room : state.InRoom) : left.InRoom := by
  cases h with
  | absent _ => exact room
  | noSlot held _ => exact room.without_one start.held held
  | fills held _ _ => exact room.without_one start.held held
  | loses held _ _ => exact room.without_one start.held held
  | @replaces item previous grown held _ _ grows =>
    have taken := used_without_one start.held held
    have returned : used grown = used (state.without item.id 1).inventory + 1 := grows.used
    have before : used state.inventory ≤ state.player.inventoryCapacity := room
    change used grown ≤ state.player.inventoryCapacity
    omega

end Equips

namespace Unequips

variable {state left : GameState} {slot : Document} {given : Except Fault (Option Item)}

theorem has_eq (h : Unequips state slot given left) (stocked : state.Stocked)
    {taken : Option Item} (answers : given = .ok taken) (other : String) :
    left.has other = state.has other := by
  cases h with
  | keeps => rfl
  | nothing => rfl
  | loses _ _ => cases answers
  | @bares item grown key worn room grows =>
    obtain ⟨front, back, before, -, cleared⟩ := Equipment.items_put_of_some item key worn
    have one : item.quantity = 1 := stocked.worn item (by rw [before]; simp)
    have returned := grows.amount (· == other)
    rw [has_eq_amount, has_eq_amount]
    change amount _ grown + amount _ (state.player.equipment.clear slot).items = _
    rw [cleared, before, returned]
    simp only [amount_append, amount_cons, share_one, share_of_one one]
    omega

theorem stocked (h : Unequips state slot given left) (start : state.Stocked) : left.Stocked := by
  have fewer : ∀ item ∈ (state.player.equipment.clear slot).items, item.quantity = 1 := by
    intro item mem
    obtain ⟨entry, among, rfl⟩ := List.mem_map.1 mem
    exact start.worn entry.2 (List.mem_map_of_mem (List.mem_filter.1 among).1)
  cases h with
  | keeps => exact start
  | nothing => exact start
  | loses _ _ => exact ⟨start.held, fewer⟩
  | bares _ _ _ grows => exact ⟨grows.stocked start.held (Int.le_refl 1), fewer⟩

theorem inRoom (h : Unequips state slot given left) (room : state.InRoom) : left.InRoom := by
  cases h with
  | keeps => exact room
  | nothing => exact room
  | loses _ _ => exact room
  | @bares item grown _ _ enough grows =>
    have free := of_decide_eq_true enough
    rw [usedSlots_eq] at free
    have returned : used grown = used state.inventory + 1 := grows.used
    change used grown ≤ state.player.inventoryCapacity
    omega

end Unequips

/-! ## Using -/

namespace Uses

variable {state left : GameState} {id : Document} {r : Except Fault ItemUse}

/-- One thing of the item used is gone if it was used up, and nothing else changes. -/
theorem has_eq (h : Uses state id r left) (stocked : state.Stocked) {use : ItemUse}
    (answers : r = .ok use) (other : String) :
    left.has other =
      state.has other - (if use.consumed = true ∧ id = .text other then 1 else 0) := by
  cases h with
  | keeps whole => simp [whole use answers]
  | wears equips whole =>
    obtain ⟨unused, previous, gives⟩ := whole use answers
    simp [unused, equips.has_eq stocked gives other]
  | @consumes item _ held consumed =>
    cases answers
    have taken := amount_without_one stocked.held held (· == other)
    have named := id_of_findItem? held
    have same : (use.consumed = true ∧ id = .text other) ↔ (item.id == other) = true := by
      simp [consumed, named]
    rw [has_eq_amount, has_eq_amount]
    simp only [same]
    change amount _ (state.without item.id 1).inventory +
      amount _ state.player.equipment.items = _
    omega

theorem stocked (h : Uses state id r left) (start : state.Stocked) : left.Stocked := by
  cases h with
  | keeps _ => exact start
  | wears equips _ => exact equips.stocked start
  | consumes _ _ => exact start.without _ 1

theorem inRoom (h : Uses state id r left) (start : state.Stocked) (room : state.InRoom) :
    left.InRoom := by
  cases h with
  | keeps _ => exact room
  | wears equips _ => exact equips.inRoom start room
  | consumes held _ => exact room.without_one start.held held

end Uses

end Inventory

end InteractiveFiction
