import InteractiveFiction.Condition.Operator
import InteractiveFiction.State

/-!
Leaves of conditions: what each asks of the state.

A leaf is an object with one key that names its subject.  Other keys qualify it; where an object
has several subjects the first in the order of `Subject.all` counts.
-/

set_option autoImplicit false

namespace InteractiveFiction

/-- A number of the state that a leaf can ask for by name. -/
inductive Quantity where
  | level | health | gold | mana | experience | playtime | storyProgress
deriving DecidableEq, Repr

namespace Quantity

def key : Quantity → String
  | .level => "playerLevel"
  | .health => "playerHealth"
  | .gold => "playerGold"
  | .mana => "playerMana"
  | .experience => "playerExperience"
  | .playtime => "playtime"
  | .storyProgress => "storyProgress"

def of (state : GameState) : Quantity → Number
  | .level => state.player.level
  | .health => state.player.health
  | .gold => state.player.gold
  | .mana => state.player.mana
  | .experience => state.player.experience
  | .playtime => state.progress.playtime
  | .storyProgress => state.progress.storyProgress

def all : List Quantity :=
  [.level, .health, .gold, .mana, .experience, .playtime, .storyProgress]

end Quantity

inductive Subject where
  | quantity (q : Quantity)
  | playerStat
  | flag
  | hasItem
  | itemCount
  | visitedScene
  | notVisitedScene
  | relationship
  | hasAchievement
  | madeChoice
  | timeOfDay
deriving DecidableEq, Repr

namespace Subject

def key : Subject → String
  | .quantity q => q.key
  | .playerStat => "playerStat"
  | .flag => "flag"
  | .hasItem => "hasItem"
  | .itemCount => "itemCount"
  | .visitedScene => "visitedScene"
  | .notVisitedScene => "notVisitedScene"
  | .relationship => "relationship"
  | .hasAchievement => "hasAchievement"
  | .madeChoice => "madeChoice"
  | .timeOfDay => "timeOfDay"

def all : List Subject :=
  Quantity.all.map .quantity ++
    [.playerStat, .flag, .hasItem, .itemCount, .visitedScene, .notVisitedScene, .relationship,
      .hasAchievement, .madeChoice, .timeOfDay]

def find? (fields : Fields) : Option Subject :=
  all.find? fun subject => fields.has subject.key

def defaultOperator : Subject → Operator
  | .quantity _ | .playerStat | .itemCount | .relationship => .gte
  | _ => .eq

/-- Whether what the subject is asked about is looked up by its key. -/
def looksUp : Subject → Bool
  | .playerStat | .flag | .relationship | .timeOfDay => true
  | _ => false

/-- The key that may hold the operator of this subject, after the common one. -/
def operatorKey (subject : Subject) : String :=
  subject.key ++ "Operator"

end Subject

def modifierKeys : List String :=
  ["op", "value", "flagValue", "itemCountId", "relationshipValue"] ++
    Subject.all.map Subject.operatorKey

/-! ## Times of day -/

/-- The hours of a time of day, which its name selects. -/
def timeOfDay? (name : Document) : Option (Nat → Bool) :=
  match name with
  | .text "morning" => some fun hour => 6 ≤ hour && hour < 12
  | .text "afternoon" => some fun hour => 12 ≤ hour && hour < 18
  | .text "evening" => some fun hour => 18 ≤ hour && hour < 22
  | .text "night" => some fun hour => 22 ≤ hour || hour < 6
  | _ => none

/-! ## Leaves -/

namespace Leaf

/-- What a leaf writes as its operator. -/
def operatorDocument (fields : Fields) (subject : Subject) : Document :=
  fields.getOr "op" (fields.getOr subject.operatorKey (.text subject.defaultOperator.name))

def operator (fields : Fields) (subject : Subject) : Result Operator :=
  let written := operatorDocument fields subject
  match Operator.ofDocument? written with
  | some operator => pure operator
  | none => throw (.content (.unknownOperator written (.object fields)))

def target (fields : Fields) (subject : Subject) : Document :=
  fields.getD subject.key .null

/-- Refuses to look up what is no key. -/
def requireKey (fields : Fields) (subject : Subject) : Result Unit :=
  let target := target fields subject
  if subject.looksUp && !target.isKey then throw (.mistyped (.notAKey target.kind)) else pure ()

/-- The answer of a leaf whose subject and operator are known. -/
def answer (hour : Nat) (state : GameState) (fields : Fields) (subject : Subject)
    (operator : Operator) : Bool :=
  let target := target fields subject
  match subject with
  | .quantity q => operator.holds (.number (q.of state)) target true
  | .playerStat =>
    let stat := target.text?.bind state.player.attributes.get?
    operator.holds (Document.ofOption (stat.map Document.int)) (fields.getD "value" (.int 0)) true
  | .flag =>
    match fields.get "flagValue" with
    | some wanted => operator.holds (state.flags.value target) wanted false
    | none => state.flags.isSet target
  | .hasItem => (state.findItem? target).isSome
  | .itemCount =>
    operator.holds (.int (state.countItem (fields.getD "itemCountId" .null))) target true
  | .visitedScene => state.hasVisited target
  | .notVisitedScene => !state.hasVisited target
  | .relationship =>
    operator.holds (.int (state.relationship target)) (fields.getD "relationshipValue" (.int 0))
      true
  | .hasAchievement => state.hasAchievement target
  | .madeChoice => state.hasMadeChoice target
  | .timeOfDay => ((timeOfDay? target).map fun covers => covers hour).getD false

/-- A leaf without a known subject does not hold. -/
def evaluate (hour : Nat) (state : GameState) (fields : Fields) : Result Bool :=
  match Subject.find? fields with
  | none => pure false
  | some subject => do
    let operator ← operator fields subject
    requireKey fields subject
    pure (answer hour state fields subject operator)

end Leaf

end InteractiveFiction
