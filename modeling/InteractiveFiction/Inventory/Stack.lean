import InteractiveFiction.State.Item

/-!
Stacks: how the entries of an inventory grow and shrink.

An inventory is a list of entries; entries of one id need not be one entry.  `Inventory.insert`
adds to the first stack with room, else at the end; `Inventory.take` takes from the entries of an
id in their order, and drops those that are used up.
-/

set_option autoImplicit false

namespace InteractiveFiction

namespace Inventory

/-! ## Quantities -/

def used (items : List Item) : Int :=
  (items.map Item.quantity).foldr (· + ·) 0

def count (items : List Item) (id : String) : Int :=
  ((items.filter fun item => item.id == id).map Item.quantity).foldr (· + ·) 0

def worth (items : List Item) : Int :=
  (items.map fun item => item.value * item.quantity).foldr (· + ·) 0

/-- An item weighs one unless its author says otherwise. -/
def weight (items : List Item) : Result Number :=
  items.foldlM (fun total item => do
    let each := (← item.properties.fields "get").getD "weight" (.int 1)
    match each.number? with
    | some each => pure (total + each * .int item.quantity)
    | none => throw (.mistyped (.operand s!"unsupported weight: {each.kind}"))) (0 : Number)

/-! ## Growing -/

/-- How many things a stack holds when its author sets no limit. -/
def maxStackSize : Int := 99

def stackLimit (item : Item) : Document :=
  Document.orElse item.maxStack (.int maxStackSize)

def fits (total : Int) (limit : Document) : Result Bool :=
  match limit.number? with
  | some limit => pure ((Number.int total).le limit)
  | none => throw (.mistyped (.operand
      s!"'<=' not supported between instances of 'int' and '{limit.kind}'"))

/-- The entries with an item added to the first stack that has room; nothing when none has. -/
def merge (item : Item) : List Item → Result (Option (List Item))
  | [] => pure none
  | entry :: entries => do
    let total := entry.quantity + item.quantity
    if entry.id == item.id && entry.stackable then
      if ← fits total (stackLimit item) then
        return some ({ entry with quantity := total } :: entries)
    pure ((← merge item entries).map (entry :: ·))

def insert (items : List Item) (item : Item) : Result (List Item) := do
  if item.stackable then
    if let some merged ← merge item items then return merged
  pure (items ++ [item])

/-! ## Shrinking -/

/-- What is left after taking a number of things of an id, and how many each entry gave. -/
def take (id : String) (quantity : Int) : List Item → List Item × List Int
  | [] => ([], [])
  | entry :: entries =>
    if quantity ≤ 0 then (entry :: entries, [])
    else if entry.id ≠ id then
      let (rest, taken) := take id quantity entries
      (entry :: rest, taken)
    else
      let given := min entry.quantity quantity
      let (rest, taken) := take id (quantity - given) entries
      let left := entry.quantity - given
      (if left ≤ 0 then rest else { entry with quantity := left } :: rest, given :: taken)

end Inventory

end InteractiveFiction
