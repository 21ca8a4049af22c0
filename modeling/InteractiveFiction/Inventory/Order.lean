import InteractiveFiction.State.Item
import InteractiveFiction.Text.Lowercase

/-!
The orders an inventory can be sorted in.  Entries that are equal in an order keep their places.
-/

set_option autoImplicit false

namespace InteractiveFiction

/-- By name without regard to case, by type, by value with the highest first, or by rarity with
the rarest first. -/
inductive InventoryOrder where
  | name | type | value | rarity
deriving DecidableEq, Repr

namespace InventoryOrder

def label : InventoryOrder → String
  | .name => "name"
  | .type => "type"
  | .value => "value"
  | .rarity => "rarity"

def ofDocument? : Document → Option InventoryOrder
  | .text "name" => some .name
  | .text "type" => some .type
  | .text "value" => some .value
  | .text "rarity" => some .rarity
  | _ => none

/-- Common, and what is no rarity, comes last. -/
def rarityRank : Document → Int
  | .text "uncommon" => 1
  | .text "rare" => 2
  | .text "epic" => 3
  | .text "legendary" => 4
  | _ => 0

/-- What an item is sorted by; the least comes first.  A rarity must be a value that can be a key. -/
def key (order : InventoryOrder) (item : Item) : Result Document :=
  match order with
  | .name =>
    match item.name with
    | .text shown => pure (.text (lowerText shown))
    | other => throw (.noField other.kind "lower")
  | .type => pure item.type
  | .value => pure (.int (-item.value))
  | .rarity => do
    item.rarity.checkKey
    pure (.int (-rarityRank item.rarity))

def comparable : List Document → Bool
  | a :: b :: rest => (a.order? b).isSome && comparable (b :: rest)
  | _ => true

def atMost (a b : Document) : Bool :=
  a.order? b != some .gt

def sort (order : InventoryOrder) (items : List Item) : Result (List Item) := do
  let keyed ← items.mapM fun item => do pure ((← order.key item), item)
  if comparable (keyed.map Prod.fst) then
    pure ((keyed.mergeSort fun a b => atMost a.1 b.1).map Prod.snd)
  else throw (.mistyped (.operand "the types of items have no common order"))

end InventoryOrder

end InteractiveFiction
