import InteractiveFiction.Condition.Leaf

/-!
Conditions: trees of `and`, `or` and `not` over leaves, as authors write them.

* `Condition.evaluate`: whether a condition holds in a state at an hour.  What is absent or empty
  holds; a list holds when all its members do.  Members are asked in order, and the first one that
  decides ends the asking, so that a malformed member behind it is never seen.
* `checkResources`, `hasSpace`: whether a player can pay and carry.
-/

set_option autoImplicit false

namespace InteractiveFiction

theorem sizeOf_lt_of_lookup {fields : Fields} {key : String} {d : Document}
    (found : fields.lookup key = some d) : sizeOf d < sizeOf fields := by
  induction fields with
  | nil => simp at found
  | cons entry rest ih =>
    obtain ⟨k, v⟩ := entry
    rw [List.lookup_cons] at found
    split at found
    · cases found
      simp only [List.cons.sizeOf_spec, Prod.mk.sizeOf_spec]
      omega
    · have := ih found
      simp only [List.cons.sizeOf_spec]
      omega

namespace Condition

variable (hour : Nat) (state : GameState)

mutual

/-- Whether a node of a condition holds. -/
def evaluateNode (node : Document) : Result Bool :=
  match node with
  | .list members => evaluateAll members
  | .object fields =>
    match found : fields.lookup "and" with
    | some (.list members) =>
      have := sizeOf_lt_of_lookup found
      evaluateAll members
    | some _ => throw (.content (.combinatorNotList "and"))
    | none =>
      match found : fields.lookup "or" with
      | some (.list members) =>
        have := sizeOf_lt_of_lookup found
        evaluateAny members
      | some _ => throw (.content (.combinatorNotList "or"))
      | none =>
        match found : fields.lookup "not" with
        | some (.object inner) =>
          have := sizeOf_lt_of_lookup found
          return !(← evaluateNode (.object inner))
        | some _ => throw (.content .negationNotObject)
        | none => if fields.isEmpty then pure true else Leaf.evaluate hour state fields
  | node => throw (.content (.conditionNotObject node.kind))
termination_by sizeOf node
decreasing_by all_goals simp_all <;> omega

def evaluateAll (members : List Document) : Result Bool :=
  match members with
  | [] => pure true
  | member :: members => do
    if ← evaluateNode member then evaluateAll members else pure false
termination_by sizeOf members

def evaluateAny (members : List Document) : Result Bool :=
  match members with
  | [] => pure false
  | member :: members => do
    if ← evaluateNode member then pure true else evaluateAny members
termination_by sizeOf members

end

/-- Whether a condition holds; what is absent or empty does. -/
def evaluate (condition : Document) : Result Bool :=
  if condition.isTruthy then evaluateNode hour state condition else pure true

end Condition

/-! ## Resources -/

namespace GameState

/-- What the player holds of a resource: a vital number, or the items of an id or a name. -/
def resource (state : GameState) (name : String) : Number :=
  match name with
  | "gold" => state.player.gold
  | "health" => state.player.health
  | "mana" => state.player.mana
  | "experience" => state.player.experience
  | name => state.itemQuantity name

/-- Whether the player holds at least the given amount of each resource. -/
def checkResources (state : GameState) (required : List (String × Number)) : Bool :=
  required.all fun (name, amount) => !(state.resource name).lt amount

def hasSpace (state : GameState) (slots : Number) : Bool :=
  ((state.usedSlots : Number) + slots).le state.player.inventoryCapacity

end GameState

end InteractiveFiction
