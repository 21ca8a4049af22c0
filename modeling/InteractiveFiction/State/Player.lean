import InteractiveFiction.OrderedMap
import InteractiveFiction.State.Equipment

/-!
The player: vital numbers, attributes and equipment.

Experience is the one number that an item may raise by a fraction.  It is worth levels: the square
root of its hundredth, rounded down, counted from one.
-/

set_option autoImplicit false

namespace InteractiveFiction

structure Player where
  name : Document := "Player"
  level : Int := 1
  health : Int := 100
  maxHealth : Int := 100
  mana : Int := 50
  maxMana : Int := 50
  experience : Number := 0
  gold : Int := 0
  attributes : OrderedMap Int
  equipment : Equipment := .empty
  inventoryCapacity : Int := 50
deriving DecidableEq

/-- The level that an amount of experience is worth; debts count as none. -/
def levelFor (experience : Number) : Result Int := do
  let hundredth ← (Number.max 0 experience).dividedBy 100
  pure ((← (Number.float hundredth.sqrt).floor) + 1)

namespace Player

def startingAttributes : OrderedMap Int :=
  .ofEntries [("strength", 10), ("intelligence", 10), ("dexterity", 10), ("charisma", 10),
    ("luck", 10)]

def starting (name : Document) : Player :=
  { name, attributes := startingAttributes }

def attributesOf (fields : Fields) : Result (OrderedMap Int) :=
  fields.foldlM (fun known (key, value) => do pure (known.insert key (← value.toInt))) .empty

/-- The attributes that are written down, or those of a new player. -/
def attributesIn (d : Option Document) : Result (OrderedMap Int) :=
  match d with
  | some attributes => do attributesOf (← attributes.fields "items")
  | none => pure startingAttributes

def ofDocument (d : Document) : Result Player := do
  let fields ← d.fields "get"
  let level ← (fields.getD "level" (.int 1)).toInt
  let maxHealth ← (fields.getD "maxHealth" (.int 100)).toInt
  let health ← (fields.getD "health" (.int maxHealth)).toInt
  let maxMana ← (fields.getD "maxMana" (.int 50)).toInt
  let mana ← (fields.getD "mana" (.int maxMana)).toInt
  let experience ← (fields.getD "experience" (.int 0)).toInt
  let gold ← (fields.getD "gold" (.int 0)).toInt
  let attributes ← attributesIn (fields.get "attributes")
  let equipment ← Equipment.ofFields (← (fields.getOr "equipment" (.object [])).fields "items")
  let inventoryCapacity ← (fields.getD "inventoryCapacity" (.int 50)).toInt
  pure {
    name := fields.getD "name" "Player"
    level, health, maxHealth, mana, maxMana, gold, attributes, equipment, inventoryCapacity
    experience := .int experience }

def attributesDocument (attributes : OrderedMap Int) : Document :=
  .object (attributes.entries.map fun (name, value) => (name, .int value))

def toDocument (player : Player) : Document :=
  .object [("name", player.name), ("level", .int player.level), ("health", .int player.health),
    ("maxHealth", .int player.maxHealth), ("mana", .int player.mana),
    ("maxMana", .int player.maxMana), ("experience", .number player.experience),
    ("gold", .int player.gold), ("attributes", attributesDocument player.attributes),
    ("equipment", player.equipment.toDocument),
    ("inventoryCapacity", .int player.inventoryCapacity)]

end Player

end InteractiveFiction
