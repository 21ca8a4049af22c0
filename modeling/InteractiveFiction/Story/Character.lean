import InteractiveFiction.Story.Choice

/-!
Characters met in scenes: what they may say, trade and ask for.
-/

set_option autoImplicit false

namespace InteractiveFiction

/-- The list under a key, empty when there is none. -/
def listOf (d : Document) (key : String) : Result (List Document) :=
  (Document.orElse (d.field? key) (.list [])).toItems

/-- The fields under a key, none when there are none. -/
def fieldsUnder (d : Document) (key : String) : Result Fields :=
  (Document.orElse (d.field? key) (.object [])).toFields

/-- A line is open to friends of a least standing, in a state with the flags it asks for. -/
structure DialogueLine where
  text : Document := ""
  responses : List Document := []
  minRelationship : Document := .null
  requiredFlags : Fields := []
  priority : Int := 0
  optimalRelationship : Int := 0
deriving DecidableEq

namespace DialogueLine

def ofDocument (d : Document) : Result DialogueLine := do
  let _ ← d.fields "get"
  let responses ← listOf d "responses"
  let requiredFlags ← fieldsUnder d "requiredFlags"
  let priority ← (d.getD "priority" (.int 0)).toInt
  let optimalRelationship ← (d.getD "optimalRelationship" (.int 0)).toInt
  pure {
    text := d.getD "text" ""
    responses
    minRelationship := d.get "minRelationship"
    requiredFlags, priority, optimalRelationship }

def toDocument (line : DialogueLine) : Document :=
  .object [("text", line.text), ("responses", .list line.responses),
    ("minRelationship", line.minRelationship), ("requiredFlags", .object line.requiredFlags),
    ("priority", .int line.priority), ("optimalRelationship", .int line.optimalRelationship)]

end DialogueLine

structure Quest where
  id : Document
  description : Document := ""
  /-- Flags that must be set before the quest is offered. -/
  prerequisites : List Document := []
  requiredRelationship : Int := 0
deriving DecidableEq

namespace Quest

def ofDocument (d : Document) : Result Quest := do
  let id ← requireId "quest" d
  let prerequisites ← listOf d "prerequisites"
  let requiredRelationship ← (d.getD "requiredRelationship" (.int 0)).toInt
  pure { id, description := d.getD "description" "", prerequisites, requiredRelationship }

def toDocument (quest : Quest) : Document :=
  .object [("id", quest.id), ("description", quest.description),
    ("prerequisites", .list quest.prerequisites),
    ("requiredRelationship", .int quest.requiredRelationship)]

end Quest

structure Character where
  id : Document
  name : Document
  description : Document := ""
  traits : List Document := []
  preferences : Fields := []
  dialogue : List DialogueLine := []
  tradeItems : List Document := []
  quests : List Quest := []
deriving DecidableEq

namespace Character

def ofDocument (d : Document) : Result Character := do
  let id ← requireId "character" d
  let traits ← listOf d "traits"
  let preferences ← fieldsUnder d "preferences"
  let dialogue ← (← listOf d "dialogue").mapM DialogueLine.ofDocument
  let tradeItems ← listOf d "tradeItems"
  let quests ← (← listOf d "quests").mapM Quest.ofDocument
  pure {
    id
    name := d.getD "name" id
    description := d.getD "description" ""
    traits, preferences, dialogue, tradeItems, quests }

def toDocument (character : Character) : Document :=
  .object [("id", character.id), ("name", character.name),
    ("description", character.description), ("traits", .list character.traits),
    ("preferences", .object character.preferences),
    ("dialogue", .list (character.dialogue.map DialogueLine.toDocument)),
    ("tradeItems", .list character.tradeItems),
    ("quests", .list (character.quests.map Quest.toDocument))]

end Character

end InteractiveFiction
