import InteractiveFiction.Document.Coercion

/-!
Items: what a player holds or wears.

Name, type, rarity, description, properties and the limit of a stack are kept as the author wrote
them; identity, value, quantity and stacking are what the rules count with.
-/

set_option autoImplicit false

namespace InteractiveFiction

structure Item where
  id : String
  name : Document
  type : Document := "misc"
  rarity : Document := "common"
  value : Int := 0
  quantity : Int := 1
  stackable : Bool := false
  /-- The authored limit of a stack, never null. -/
  maxStack : Option Document := none
  description : Document := ""
  properties : Document := .object []
deriving DecidableEq

namespace Item

def ofDocument (d : Document) : Result Item := do
  let fields ← d.fields "get"
  let id := fields.getOr "id" .null
  if !id.isTruthy then throw (.content (.itemWithoutId d))
  let value ← (fields.getOr "value" (.int 0)).toInt
  let quantity ← (fields.getOr "quantity" (.int 1)).toInt
  pure {
    id := id.display
    name := fields.getOr "name" id.display
    type := fields.getD "type" "misc"
    rarity := fields.getD "rarity" "common"
    value
    quantity
    stackable := (fields.getD "stackable" (.bool false)).isTruthy
    maxStack := (fields.getD "maxStack" (fields.getD "max_stack" .null)).toOption
    description := fields.getD "description" ""
    properties := fields.getOr "properties" (.object []) }

def toDocument (item : Item) : Document :=
  .object <|
    [("id", .text item.id), ("name", item.name), ("type", item.type), ("rarity", item.rarity),
      ("value", .int item.value), ("quantity", .int item.quantity),
      ("stackable", .bool item.stackable), ("description", item.description),
      ("properties", item.properties)] ++
    (match item.maxStack with
      | some limit => [("maxStack", limit)]
      | none => [])

end Item

end InteractiveFiction
