import InteractiveFiction.Inventory

/-!
Using items.  What a use does depends on the type of the item; the bundle it brings is returned
and not applied here.  A consumable that was used up is taken from the inventory.
-/

set_option autoImplicit false

namespace InteractiveFiction

structure ItemUse where
  success : Bool
  message : String
  item : Document
  effect : Effect := {}
  /-- What is to be added to health and mana, where it is passed on as it was written. -/
  gains : Fields := []
  equipped : Bool := false
  consumed : Bool := false
  details : Fields := []
deriving DecidableEq

namespace ItemUse

/-- Whether a use brings nothing that would have to be applied. -/
def isIdle (use : ItemUse) : Bool :=
  use.effect.isEmpty && use.gains.isEmpty

/-- The first gain that is no number, so that it cannot be added. -/
def spoilt? (use : ItemUse) : Option (String × Document) :=
  use.gains.find? fun (_, gain) => gain.number?.isNone

def effectDocument (use : ItemUse) : Document :=
  if use.gains.isEmpty then use.effect.toDocument else .object use.gains

def toDocument (use : ItemUse) : Document :=
  .object [("success", .bool use.success), ("message", .text use.message),
    ("itemId", use.item), ("effect", use.effectDocument), ("equipped", .bool use.equipped),
    ("consumed", .bool use.consumed), ("details", .object use.details)]

end ItemUse

namespace Item

/-- The types that are used up by default. -/
def isConsumableType : Document → Bool
  | .text type => ["potion", "food", "scroll"].contains type
  | _ => false

/-- A number among the properties; a value of another kind is refused. -/
def amount (d : Document) : Result Number :=
  match d.number? with
  | some n => pure n
  | none => throw (.mistyped (.operand s!"not a number: {d.kind}"))

/-! ## One rule for each type -/

/-- What a potion gives is passed on as it was written, whether it can be added or not. -/
def usePotion (item : Item) (properties : Fields) : Result ItemUse := do
  let effects ← (properties.getOr "effects" (.object [])).fields "get"
  let given (key : String) : Option Document := (effects.get key).bind Document.toOption
  let gain (title key : String) : List String :=
    let value := effects.getD key .null
    if value.isTruthy then [s!"{title}: +{value.display}"] else []
  let gains := gain "Health" "health" ++ gain "Mana" "mana"
  let message := s!"You drink {item.name.display}."
  pure {
    success := true
    message := if gains.isEmpty then message else message ++ " " ++ ", ".intercalate gains
    item := item.id
    effect := {
      health := (given "health").bind Document.number?
      mana := (given "mana").bind Document.number? }
    gains := Effect.optionalPart "health" (given "health") (fun gain => gain) ++
      Effect.optionalPart "mana" (given "mana") (fun gain => gain) }

def useFood (item : Item) (properties : Fields) : Result ItemUse := do
  let gain := (← amount (properties.getD "nutrition" (.int 10))).halfDown
  pure {
    success := true
    message := s!"You eat {item.name.display} and recover a little."
    item := item.id
    effect := { health := some gain }
    details := [("health", .number gain)] }

def useTool (item : Item) (properties : Fields) : ItemUse :=
  if [Document.text "lockpick", "rope"].contains (properties.getD "toolType" .null) then
    { success := true, message := s!"You ready {item.name.display}.", item := item.id
      details := [("toolReady", .bool true)] }
  else
    { success := true, message := s!"You use {item.name.display}.", item := item.id }

/-- A flag that is set by a use. -/
def raised (names : List String) : Effect :=
  { flags := .ofEntries (names.map fun name => (name, .bool true)) }

def useKey (item : Item) (properties : Fields) : ItemUse :=
  let key := properties.getD "keyId" .null
  { success := true
    message := s!"You use {item.name.display}."
    item := item.id
    effect := if key.isTruthy then raised [s!"key_{key.display}_used"] else {}
    details := [("keyUsed", key)] }

def useBook (item : Item) (properties : Fields) : Result ItemUse := do
  let knowledge ← (properties.getOr "knowledge" (.list [])).toItems
  let written := properties.getD "experience" (.int 10)
  let experience ← amount written
  pure {
    success := true
    message := s!"You read {item.name.display} and learn something new."
    item := item.id
    effect := { raised (knowledge.map fun k => s!"knowledge_{k.display}") with
      experience := if (0 : Number).lt experience then some experience else none }
    details := [("experience", written), ("knowledge", .list knowledge)] }

def useScroll (item : Item) (properties : Fields) (mana : Int) : Result ItemUse := do
  let spell := properties.getD "spell" .null
  let written := properties.getD "manaCost" (.int 0)
  let cost ← amount written
  if (Number.int mana).lt cost then
    pure { success := false, message := "Not enough mana to use the scroll.", item := item.id }
  else
    let cast := if spell.isTruthy then spell.display else "a spell"
    pure {
      success := true
      message := s!"You read the scroll and cast {cast}."
      item := item.id
      effect := { (if spell.isTruthy then raised [s!"spell_{spell.display}_cast"] else {}) with
        mana := if cost.isZero then none else some (-cost) }
      details := [("spell", spell), ("manaCost", written)] }

def useGeneric (item : Item) : ItemUse :=
  { success := true
    message := s!"You use {item.name.display}."
    item := item.id
    effect := raised [s!"item_{item.id}_used"] }

def wear (item : Item) (message : String) (slot : Document) : Action ItemUse := do
  let previous ← Inventory.equip item.id slot
  let replaced := Document.ofOption (previous.map fun item => .text item.id)
  pure {
    success := true, message, item := item.id, equipped := true
    details := [("slot", slot), ("replaced", replaced)] }

/-- The rule of an item is found by its type, which must be a value that can be a key. -/
def useByType (item : Item) : Action ItemUse := do
  let properties := item.properties
  match item.type with
  | .text "potion" => item.usePotion (← properties.fields "get")
  | .text "food" => item.useFood (← properties.fields "get")
  | .text "weapon" => item.wear s!"You wield {item.name.display}." "weapon"
  | .text "armor" =>
    let slot := (← properties.fields "get").getD "slot" "chest"
    item.wear s!"You put on {item.name.display}." slot
  | .text "tool" => pure (item.useTool (← properties.fields "get"))
  | .text "key" => pure (item.useKey (← properties.fields "get"))
  | .text "book" => item.useBook (← properties.fields "get")
  | .text "scroll" =>
    item.useScroll (← properties.fields "get") (← Action.state).player.mana
  | type =>
    type.checkKey
    pure item.useGeneric

end Item

namespace Inventory

def useItem (id : Document) : Action ItemUse := do
  match (← Action.state).findItem? id with
  | none => pure { success := false, message := "Item not found", item := id }
  | some item =>
    let use ← item.useByType
    let consumable :=
      (← item.properties.fields "get").getD "consumable" (.bool (Item.isConsumableType item.type))
    let consumed := use.success && consumable.isTruthy && !use.equipped
    if consumed then takeItem item.id 1
    Action.publish (.itemUsed item.id use.success use.message)
    pure { use with consumed }

end Inventory

end InteractiveFiction
