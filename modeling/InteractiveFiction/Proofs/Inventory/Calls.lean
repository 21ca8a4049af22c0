import InteractiveFiction.Proofs.Inventory.Holdings

/-!
An inventory under any sequence of calls.

* `InventoryCall.change`: by how much a call that gave an answer changes what a player has of an id.
* `InventoryCall.has_of_call`: what a player has changes by that and nothing else, wherever the
  call stands in a sequence.
* `InventoryCall.stocked_inRoom_along_calls`: entries stay filled and room is kept, whatever fails.
-/

set_option autoImplicit false

namespace InteractiveFiction

open Course Inventory

inductive InventoryCall where
  | add (items : List Item)
  | remove (removals : List ItemRemoval)
  | sort (key : Document)
  | equip (id slot : Document)
  | unequip (slot : Document)
  | use (id : Document)

/-! ## A satchel -/

namespace Satchel

def arrows (quantity : Int) : Item :=
  { id := "arrow", name := "Arrow", quantity, stackable := true }

def sling : Item :=
  { id := "sling", name := "Sling", type := "weapon" }

def bow : Item :=
  { id := "bow", name := "Bow", type := "weapon" }

def tonic : Item :=
  { id := "tonic", name := "Tonic", type := "potion", quantity := 2 }

/-- Two entries of arrows, one of them nearly full, and a sling in the hand. -/
def packed : Stage where
  now := 0
  state :=
    { GameState.starting 0 "game" "hunt" "wood" "Ann" {} with
      player := { Player.starting "Ann" with
        equipment := Equipment.empty.put "weapon" sling, inventoryCapacity := 110 }
      inventory := [arrows 98, arrows 3, bow, tonic] }

theorem packed_stocked : packed.state.Stocked where
  held := by decide
  worn := by decide +kernel

/-- More arrows, arrows asked for twice, the bow put on for the sling, and a rope that is not
there. -/
def morning : List InventoryCall :=
  [.add [arrows 5], .remove [{ id := "arrow", quantity := 100 }, { id := "arrow", quantity := 2 }],
    .use "bow", .equip "rope" "belt"]

end Satchel

namespace InventoryCall

abbrev Answer : InventoryCall → Type
  | add _ | remove _ => Bool
  | sort _ => Unit
  | equip _ _ | unequip _ => Option Item
  | use _ => ItemUse

def make : (call : InventoryCall) → Action call.Answer
  | add items => addItems items
  | remove removals => removeItems removals
  | sort key => Inventory.sort key
  | equip id slot => Inventory.equip id slot
  | unequip slot => Inventory.unequip slot
  | use id => useItem id

/-- What is added is something. -/
def AddsPositive : InventoryCall → Prop
  | add items => Inventory.Stocked items
  | _ => True

/-- What is added and what is asked for is something. -/
def Positive : InventoryCall → Prop
  | add items => Inventory.Stocked items
  | remove removals => ∀ removal ∈ removals, 1 ≤ removal.quantity
  | _ => True

instance : (call : InventoryCall) → Decidable call.AddsPositive
  | add items => inferInstanceAs (Decidable (Inventory.Stocked items))
  | remove _ | sort _ | equip _ _ | unequip _ | use _ => .isTrue trivial

instance : (call : InventoryCall) → Decidable call.Positive
  | add items => inferInstanceAs (Decidable (Inventory.Stocked items))
  | remove removals => inferInstanceAs (Decidable (∀ removal ∈ removals, 1 ≤ removal.quantity))
  | sort _ | equip _ _ | unequip _ | use _ => .isTrue trivial

theorem Positive.adds {call : InventoryCall} (h : call.Positive) : call.AddsPositive := by
  cases call with
  | add items => exact h
  | _ => trivial

def change : (call : InventoryCall) → call.Answer → String → Int
  | add items, accepted, id => if accepted then count items id else 0
  | remove removals, removed, id => if removed then -requested removals id else 0
  | use used, given, id => if given.consumed = true ∧ used = .text id then -1 else 0
  | sort _, _, _ | equip _ _, _, _ | unequip _, _, _ => 0

/-! ## One call -/

section OneCall

variable {call : InventoryCall} {stage stage' : Stage} {r : Except Fault call.Answer}

theorem stocked_of_call (adds : call.AddsPositive) (start : stage.state.Stocked)
    (ends : outcome call.make stage = (r, stage')) : stage'.state.Stocked := by
  cases call with
  | add items =>
    obtain ⟨added, grown, among, enters, left, -⟩ := addItems_ends ends
    rw [left]
    exact ⟨enters.stocked start.held fun item mem => adds item (among.subset mem), start.worn⟩
  | remove removals =>
    obtain ⟨last, takes, left⟩ := removeItems_ends removals stage
    obtain ⟨-, rfl⟩ := Prod.mk.inj (takes.symm.trans ends)
    rw [left]
    split
    · exact ⟨stocked_takeAll _ start.held, start.worn⟩
    · exact start
  | sort key =>
    rcases sort_ends ends with ⟨-, -, same⟩ | ⟨sorted, perm, -, left⟩
    · rw [same]
      exact start
    · rw [left]
      exact ⟨fun entry mem => start.held entry (perm.subset mem), start.worn⟩
  | equip id slot => exact (equip_ends ends).stocked start
  | unequip slot => exact (unequip_ends ends).stocked start
  | use id => exact (useItem_ends ends).stocked start

theorem inRoom_of_call (adds : call.AddsPositive) (start : stage.state.Stocked)
    (room : stage.state.InRoom) (ends : outcome call.make stage = (r, stage')) :
    stage'.state.InRoom := by
  cases call with
  | add items =>
    obtain ⟨added, grown, among, enters, left, enough, -⟩ := addItems_ends ends
    rw [left]
    have more : used grown = used stage.state.inventory + used added := by
      simp only [used_eq_amount]
      exact enters.amount _
    change used grown ≤ stage.state.player.inventoryCapacity
    rcases enough with enough | rfl
    · -- What was left out would have taken room too.
      obtain ⟨rest, rfl⟩ := among
      have free := of_decide_eq_true enough
      have others := (List.forall_mem_append.1 adds).2
      have unused := Stocked.amount_nonneg others fun _ => true
      rw [GameState.usedSlots_eq, used_eq_amount (added ++ rest), amount_append,
        ← used_eq_amount] at free
      omega
    · have before : used stage.state.inventory ≤ stage.state.player.inventoryCapacity := room
      have nothing : used [] = 0 := rfl
      omega
  | remove removals =>
    obtain ⟨last, takes, left⟩ := removeItems_ends removals stage
    obtain ⟨-, rfl⟩ := Prod.mk.inj (takes.symm.trans ends)
    rw [left]
    split
    · refine Int.le_trans ?_ room
      rw [used_eq_amount, used_eq_amount]
      exact amount_takeAll_le _ _ start.held
    · exact room
  | sort key =>
    rcases sort_ends ends with ⟨-, -, same⟩ | ⟨sorted, perm, -, left⟩
    · rw [same]
      exact room
    · rw [left]
      change used sorted ≤ _
      rw [used_eq_amount, amount_perm perm, ← used_eq_amount]
      exact room
  | equip id slot => exact (equip_ends ends).inRoom start room
  | unequip slot => exact (unequip_ends ends).inRoom room
  | use id => exact (useItem_ends ends).inRoom start room

theorem has_of_answer (positive : call.Positive) (start : stage.state.Stocked)
    {answer : call.Answer} (ends : outcome call.make stage = (.ok answer, stage')) (id : String) :
    stage'.state.has id = stage.state.has id + call.change answer id := by
  cases call with
  | add items =>
    obtain ⟨added, grown, -, enters, left, -, all⟩ := addItems_ends ends
    have more := enters.amount (· == id)
    rw [left, GameState.has_eq_amount, GameState.has_eq_amount]
    change amount _ grown + amount _ stage.state.player.equipment.items = _
    rw [more, all answer rfl, change]
    cases answer
    · simp
    · rw [if_pos rfl, if_pos rfl, count_eq_amount]
      omega
  | remove removals =>
    obtain ⟨last, takes, left⟩ := removeItems_ends removals stage
    obtain ⟨answers, rfl⟩ := Prod.mk.inj (takes.symm.trans ends)
    cases answers
    rw [left, change]
    split
    · rename_i enough
      have fewer := count_removed start.held positive (enough_of_covers enough) id
      change count (takeAll _ _) id + count stage.state.player.equipment.items id = _
      rw [fewer, GameState.has]
      omega
    · exact (Int.add_zero _).symm
  | sort key =>
    rcases sort_ends ends with ⟨_, failed, -⟩ | ⟨sorted, perm, -, left⟩
    · cases failed
    · rw [left, GameState.has_eq_amount, GameState.has_eq_amount]
      change amount _ sorted + amount _ stage.state.player.equipment.items = _
      rw [amount_perm perm]
      exact (Int.add_zero _).symm
  | equip id slot =>
    rw [(equip_ends ends).has_eq start rfl]
    exact (Int.add_zero _).symm
  | unequip slot =>
    rw [(unequip_ends ends).has_eq start rfl]
    exact (Int.add_zero _).symm
  | use used =>
    rw [(useItem_ends ends).has_eq start rfl, change]
    split <;> omega

end OneCall

/-! ## Sequences of calls -/

/-- The stage after calls made one after another, each whether or not those before it failed. -/
def afterAll (calls : List InventoryCall) (stage : Stage) : Stage :=
  calls.foldl (fun stage call => after call.make stage) stage

theorem stocked_afterAll {calls : List InventoryCall} (adds : ∀ call ∈ calls, call.AddsPositive)
    {stage : Stage} (start : stage.state.Stocked) : (afterAll calls stage).state.Stocked := by
  induction calls generalizing stage with
  | nil => exact start
  | cons call calls ih =>
    obtain ⟨own, others⟩ := List.forall_mem_cons.1 adds
    exact ih others (stocked_of_call own start (outcome_eq call.make stage))

/-- Whatever calls were made before, failed ones too: a call that gives an answer changes what the
player has of each id, held or worn, by what its answer says, and by nothing else. -/
theorem has_of_call {stage : Stage} (start : stage.state.Stocked) {calls : List InventoryCall}
    (positive : ∀ call ∈ calls, call.Positive) {call : InventoryCall} (own : call.Positive)
    {answer : call.Answer} (answers : result call.make (afterAll calls stage) = .ok answer)
    (id : String) :
    (afterAll (calls ++ [call]) stage).state.has id =
      (afterAll calls stage).state.has id + call.change answer id := by
  have stocked := stocked_afterAll (fun call mem => (positive call mem).adds) start
  have ends : outcome call.make (afterAll calls stage) =
      (.ok answer, after call.make (afterAll calls stage)) := by
    rw [outcome_eq, answers]
  have last : afterAll (calls ++ [call]) stage = after call.make (afterAll calls stage) :=
    List.foldl_append
  rw [last]
  exact has_of_answer own stocked ends id

theorem tonic_used_up_after_morning :
    Satchel.packed.state.Stocked ∧ (∀ call ∈ Satchel.morning, call.Positive) ∧
      (use "tonic").Positive ∧
      ∃ answer : ItemUse, answer.consumed = true ∧
        result (use "tonic").make (afterAll Satchel.morning Satchel.packed) = .ok answer ∧
        (afterAll (Satchel.morning ++ [use "tonic"]) Satchel.packed).state.has "tonic" =
          (afterAll Satchel.morning Satchel.packed).state.has "tonic" - 1 ∧
        (afterAll (Satchel.morning ++ [use "tonic"]) Satchel.packed).state.has "arrow" =
          (afterAll Satchel.morning Satchel.packed).state.has "arrow" := by
  have positive : ∀ call ∈ Satchel.morning, call.Positive := by decide +kernel
  obtain ⟨answer, answers, consumed⟩ : ∃ answer : ItemUse,
      result (use "tonic").make (afterAll Satchel.morning Satchel.packed) = .ok answer ∧
        answer.consumed = true :=
    ⟨_, Result.eq_ok_get (by decide +kernel), by decide +kernel⟩
  have own : (use "tonic").Positive := trivial
  have changes := has_of_call Satchel.packed_stocked positive own answers
  refine ⟨Satchel.packed_stocked, positive, own, answer, consumed, answers, ?_, ?_⟩
  · rw [changes "tonic", change, if_pos ⟨consumed, rfl⟩]
    rfl
  · rw [changes "arrow", change, if_neg (by simp)]
    exact Int.add_zero _

/-- Whatever is called and whatever of it fails: every entry stands for something, what is worn is
one thing in each slot, and no more is held than there is room for. -/
theorem stocked_inRoom_along_calls {calls : List InventoryCall}
    (adds : ∀ call ∈ calls, call.AddsPositive) {stage : Stage} (start : stage.state.Stocked)
    (room : stage.state.InRoom) :
    (afterAll calls stage).state.Stocked ∧ (afterAll calls stage).state.InRoom := by
  induction calls generalizing stage with
  | nil => exact ⟨start, room⟩
  | cons call calls ih =>
    obtain ⟨own, others⟩ := List.forall_mem_cons.1 adds
    have ends := outcome_eq call.make stage
    exact ih others (stocked_of_call own start ends) (inRoom_of_call own start room ends)

theorem satchel_in_room_after_morning :
    Satchel.packed.state.Stocked ∧ Satchel.packed.state.InRoom ∧
      (∀ call ∈ Satchel.morning, call.AddsPositive) ∧
      (afterAll Satchel.morning Satchel.packed).state.Stocked ∧
      (afterAll Satchel.morning Satchel.packed).state.InRoom := by
  have room : Satchel.packed.state.InRoom := by decide +kernel
  have adds : ∀ call ∈ Satchel.morning, call.AddsPositive := by decide +kernel
  exact ⟨Satchel.packed_stocked, room, adds,
    stocked_inRoom_along_calls adds Satchel.packed_stocked room⟩

end InventoryCall

end InteractiveFiction
