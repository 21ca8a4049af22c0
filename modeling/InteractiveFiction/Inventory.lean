import InteractiveFiction.Effect.Bundle
import InteractiveFiction.Inventory.Order
import InteractiveFiction.Inventory.Stack
import InteractiveFiction.Stage

/-!
What is done with an inventory: adding, removing, sorting, wearing.

Additions and removals of several items are all or nothing.  Room is counted in things, not in
entries.
-/

set_option autoImplicit false

namespace InteractiveFiction

namespace GameState

def hasRoom (state : GameState) (slots : Int) : Bool :=
  decide (state.usedSlots + slots ≤ state.player.inventoryCapacity)

end GameState

namespace Inventory

/-! ## Adding and removing -/

def insertItem (item : Item) : Action Unit := do
  let items ← insert (← Action.state).inventory item
  Action.modifyState fun state => { state with inventory := items }
  Action.publish (.inventoryChanged "add" item.id item.quantity)

/-- Takes things of an id, as many as there are at most. -/
def takeItem (id : String) (quantity : Int) : Action Unit := do
  let (rest, taken) := take id quantity (← Action.state).inventory
  Action.modifyState fun state => { state with inventory := rest }
  modify fun stage => stage.publishAll (taken.map fun n => Event.inventoryChanged "remove" id n)

/-- Adds all the items, or none when there is no room for all. -/
def addItems (items : List Item) : Action Bool := do
  let state ← Action.state
  let required := used items
  if state.hasRoom required then
    for item in items do insertItem item
    pure true
  else
    Action.publish
      (.inventoryFull (items.map Item.id) required state.player.inventoryCapacity)
    pure false

/-- How many things of each id are to be removed, ids in the order they were first named. -/
def needed (removals : List ItemRemoval) : OrderedMap Int :=
  removals.foldl (fun needed removal =>
    needed.insert removal.id ((needed.get? removal.id).getD 0 + removal.quantity)) .empty

/-- Removes all that is asked for, or nothing when some of it is not there. -/
def removeItems (removals : List ItemRemoval) : Action Bool := do
  let wanted := (needed removals).entries
  let items := (← Action.state).inventory
  if wanted.all fun (id, quantity) => decide (quantity ≤ count items id) then
    for (id, quantity) in wanted do takeItem id quantity
    pure true
  else pure false

def sort (key : Document) : Action Unit := do
  match InventoryOrder.ofDocument? key with
  | some order =>
    let items ← order.sort (← Action.state).inventory
    Action.modifyState fun state => { state with inventory := items }
    Action.publish (.inventorySorted order.label)
  | none => throw (.value (.sortKey key))

/-! ## Wearing -/

/-- Moves one thing into a slot of the equipment; what was there goes back and is returned.  A slot
must be a value that can be a key. -/
def equip (id slot : Document) : Action (Option Item) := do
  match (← Action.state).findItem? id with
  | none => throw (.value (.itemNotHeld id))
  | some item =>
    takeItem item.id 1
    slot.checkKey
    let previous := (← Action.state).player.equipment.item? slot
    Action.modifyPlayer fun player =>
      { player with equipment := player.equipment.put slot { item with quantity := 1 } }
    if let some previous := previous then insertItem { previous with quantity := 1 }
    pure previous

/-- Takes off what is in a slot; nothing is done when the slot is empty or there is no room. -/
def unequip (slot : Document) : Action (Option Item) := do
  slot.checkKey
  let state ← Action.state
  match state.player.equipment.item? slot with
  | some item =>
    if state.hasRoom 1 then
      Action.modifyPlayer fun player => { player with equipment := player.equipment.clear slot }
      insertItem { item with quantity := 1 }
      pure (some item)
    else pure none
  | none => pure none

end Inventory

end InteractiveFiction
