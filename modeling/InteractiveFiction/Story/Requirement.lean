import InteractiveFiction.Document.Coercion

/-!
Requirements: reasons, fit to be shown, for which a choice may be out of reach.  Each type of
requirement stands for a condition.
-/

set_option autoImplicit false

namespace InteractiveFiction

structure Requirement where
  type : Document
  key : Document := .null
  operator : Document := .null
  value : Document := .null
  errorMessage : Document := ""
deriving DecidableEq

namespace Requirement

def valueOr (requirement : Requirement) (default : Document) : Document :=
  requirement.value.toOption.getD default

/-- The leaf that a requirement stands for, before its operator is added. -/
def leaf? (requirement : Requirement) : Option Fields :=
  match requirement.type with
  | .text "level" => some [("playerLevel", requirement.value)]
  | .text "health" => some [("playerHealth", requirement.value)]
  | .text "mana" => some [("playerMana", requirement.value)]
  | .text "gold" => some [("playerGold", requirement.value)]
  | .text "experience" => some [("playerExperience", requirement.value)]
  | .text "stat" => some [("playerStat", requirement.key), ("value", requirement.value)]
  | .text "item" =>
    some [("itemCount", requirement.valueOr (.int 1)), ("itemCountId", requirement.key)]
  | .text "flag" =>
    some [("flag", requirement.key), ("flagValue", requirement.valueOr (.bool true))]
  | .text "relationship" =>
    some [("relationship", requirement.key), ("relationshipValue", requirement.value)]
  | .text "achievement" => some [("hasAchievement", requirement.key)]
  | .text "visited" => some [("visitedScene", requirement.key)]
  | _ => none

def toCondition (requirement : Requirement) : Result Document :=
  match requirement.leaf? with
  | some leaf =>
    pure (.object (if requirement.operator.isTruthy then leaf.put "op" requirement.operator
      else leaf))
  | none => throw (.content (.unknownRequirement requirement.type))

/-- The message of a requirement, or its type, key and value in words. -/
def describe (requirement : Requirement) : Document :=
  if requirement.errorMessage.isTruthy then requirement.errorMessage
  else
    let parts := [requirement.type, requirement.key, requirement.value].filter fun part =>
      part != .null && part != .text ""
    .text ("Requires " ++ " ".intercalate (parts.map Document.display))

def ofDocument (d : Document) : Result Requirement :=
  match d with
  | .object _ =>
    let type := d.get "type"
    if type.isTruthy then
      pure {
        type
        key := d.get "key"
        operator := d.get "operator"
        value := d.get "value"
        errorMessage := d.getD "errorMessage" (d.getD "error_message" "") }
    else throw (.content (.requirementWithoutType d))
  | d => throw (.content (.requirementWithoutType d))

def field (key : String) (present : Bool) (d : Document) : Fields :=
  if present then [(key, d)] else []

def toDocument (requirement : Requirement) : Document :=
  .object <|
    [("type", requirement.type)] ++
    field "key" (requirement.key != .null) requirement.key ++
    field "operator" requirement.operator.isTruthy requirement.operator ++
    field "value" (requirement.value != .null) requirement.value ++
    field "errorMessage" requirement.errorMessage.isTruthy requirement.errorMessage

end Requirement

end InteractiveFiction
