import InteractiveFiction.Condition

/-!
Problems of an authored condition, found without evaluating it.  Each has the path of the node it
was found at; an unknown key is named apart from the wording.
-/

set_option autoImplicit false

namespace InteractiveFiction

structure ConditionProblem where
  path : String
  message : String
  unknownKey : Option String := none
deriving DecidableEq

namespace Leaf

def unknownSubject (path : String) (fields : Fields) : ConditionProblem :=
  match fields.find? fun (key, _) => !modifierKeys.contains key with
  | some (key, _) =>
    { path, message := s!"unknown condition key '{key}'", unknownKey := some key }
  | none => { path, message := "unknown condition key 'None'", unknownKey := some "" }

def problems (path : String) (fields : Fields) : List ConditionProblem :=
  match Subject.find? fields with
  | none => [unknownSubject path fields]
  | some subject =>
    let written := operatorDocument fields subject
    let target := fields.getD subject.key .null
    let extra := fields.filter fun (key, _) => key != subject.key && !modifierKeys.contains key
    extra.map (fun (key, _) =>
        { path, message := s!"unknown condition key '{key}'", unknownKey := some key }) ++
      (if (Operator.ofDocument? written).isSome then []
        else [{ path, message := s!"unknown operator '{written.display}'" }]) ++
      (if subject = .timeOfDay ∧ (timeOfDay? target).isNone then
        [{ path, message := s!"unknown time of day '{target.display}'" }] else []) ++
      (if subject = .itemCount ∧ !(fields.getD "itemCountId" .null).isTruthy then
        [{ path, message := "'itemCount' needs an 'itemCountId'" }] else [])

end Leaf

namespace Condition

mutual

/-- The problems of a condition, in the order in which its parts are written. -/
def problems (path : String) (condition : Document) : List ConditionProblem :=
  match condition with
  | .null => []
  | .list members => problemsOfMembers path 0 members
  | .object fields =>
    if fields.isEmpty then []
    else
      match found : fields.lookup "and" with
      | some (.list members) =>
        have := sizeOf_lt_of_lookup found
        problemsOfMembers (path ++ ".and") 0 members
      | some _ => [{ path, message := "'and' expects a list" }]
      | none =>
        match found : fields.lookup "or" with
        | some (.list members) =>
          have := sizeOf_lt_of_lookup found
          problemsOfMembers (path ++ ".or") 0 members
        | some _ => [{ path, message := "'or' expects a list" }]
        | none =>
          match found : fields.lookup "not" with
          | some (.object inner) =>
            have := sizeOf_lt_of_lookup found
            problems (path ++ ".not") (.object inner)
          | some _ => [{ path, message := "'not' expects a single condition object" }]
          | none => Leaf.problems path fields
  | condition =>
    [{ path, message := s!"condition must be an object, got {condition.kind}" }]
termination_by sizeOf condition
decreasing_by all_goals simp_all <;> omega

/-- The problems of the members of a list, the first of which has the given index. -/
def problemsOfMembers (path : String) (index : Nat) (members : List Document) :
    List ConditionProblem :=
  match members with
  | [] => []
  | member :: members =>
    problems s!"{path}[{index}]" member ++ problemsOfMembers path (index + 1) members
termination_by sizeOf members

end

end Condition

end InteractiveFiction
