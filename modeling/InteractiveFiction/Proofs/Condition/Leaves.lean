import InteractiveFiction.Proofs.Condition.Asking

/-!
What the answer to a condition depends on.

* `Condition.Contains node fields`: a leaf that stands somewhere in a condition, asked or not.
* `Condition.evaluate_congr`: states that answer every leaf alike answer the condition alike.
* `GameState.gist`: all of a state that any leaf asks of; when it was saved or changed is not.
* `Condition.AsksFor`: a condition that asks whether an achievement was unlocked.  Achievements that
  a condition does not ask for make no difference to it (`evaluate_of_unasked`).
-/

set_option autoImplicit false

namespace InteractiveFiction

namespace Condition

/-! ## Leaves of a condition -/

inductive Contains : Document → Fields → Prop
  | leaf {node : Document} {fields : Fields} (written : shape node = .leaf fields) :
      Contains node fields
  | conjunct {node member : Document} {members : List Document} {fields : Fields}
      (written : shape node = .all members) (mem : member ∈ members)
      (inside : Contains member fields) : Contains node fields
  | disjunct {node member : Document} {members : List Document} {fields : Fields}
      (written : shape node = .any members) (mem : member ∈ members)
      (inside : Contains member fields) : Contains node fields
  | negated {node : Document} {inner fields : Fields} (written : shape node = .negation inner)
      (inside : Contains (.object inner) fields) : Contains node fields

variable {hour : Nat} {state other : GameState}

theorem askUntil_congr {decisive : Bool} {members : List Document}
    (alike : ∀ member ∈ members, evaluateNode hour state member = evaluateNode hour other member) :
    askUntil hour state decisive members = askUntil hour other decisive members := by
  induction members with
  | nil => rfl
  | cons member members ih =>
    obtain ⟨own, others⟩ := List.forall_mem_cons.1 alike
    rw [askUntil, askUntil, own, ih others]

theorem evaluateNode_congr {node : Document}
    (alike : ∀ fields, Contains node fields →
      Leaf.evaluate hour state fields = Leaf.evaluate hour other fields) :
    evaluateNode hour state node = evaluateNode hour other node := by
  have smaller := sizeOf_lt_of_shape node
  rw [evaluateNode_eq, evaluateNode_eq]
  cases written : shape node with
  | all members =>
    rw [written] at smaller
    refine askUntil_congr fun member mem => ?_
    have := smaller member mem
    exact evaluateNode_congr fun fields inside => alike fields (.conjunct written mem inside)
  | any members =>
    rw [written] at smaller
    refine askUntil_congr fun member mem => ?_
    have := smaller member mem
    exact evaluateNode_congr fun fields inside => alike fields (.disjunct written mem inside)
  | negation inner =>
    rw [written] at smaller
    have : 1 + sizeOf inner < sizeOf node := by
      simpa only [Document.object.sizeOf_spec] using smaller
    have inside : evaluateNode hour state (.object inner) = evaluateNode hour other (.object inner) :=
      evaluateNode_congr fun fields inside => alike fields (.negated written inside)
    exact congrArg (Except.map (!·)) inside
  | vacuous => rfl
  | leaf fields => exact alike fields (.leaf written)
  | broken fault => rfl
termination_by sizeOf node

theorem evaluate_congr {condition : Document}
    (alike : ∀ fields, Contains condition fields →
      Leaf.evaluate hour state fields = Leaf.evaluate hour other fields) :
    evaluate hour state condition = evaluate hour other condition := by
  unfold evaluate
  rw [evaluateNode_congr alike]

end Condition

/-! ## What leaves ask of -/

namespace GameState

/-- The state without the times of saves and changes, which no condition asks for. -/
def gist (state : GameState) : GameState :=
  { state with
    progress := { state.progress with lastSaved := .null }
    metadata := ⟨.null, .null, .null⟩ }

/-- The state with certain achievements unlocked and no others. -/
def withAchievements (state : GameState) (ids : List Document) : GameState :=
  { state with progress := { state.progress with achievementsUnlocked := ids } }

theorem gist_withAchievements {state other : GameState} (h : state.gist = other.gist)
    (ids : List Document) :
    (state.withAchievements ids).gist = (other.withAchievements ids).gist :=
  congrArg (fun gist : GameState => gist.withAchievements ids) h

end GameState

theorem Leaf.evaluate_gist (hour : Nat) (state : GameState) (fields : Fields) :
    evaluate hour state.gist fields = evaluate hour state fields := by
  unfold evaluate
  cases Subject.find? fields with
  | none => rfl
  | some subject =>
    have same (operator : Operator) :
        answer hour state.gist fields subject operator = answer hour state fields subject operator := by
      cases subject with
      | quantity q => cases q <;> rfl
      | _ => rfl
    simp only [same]

namespace Condition

theorem evaluate_of_gist {state other : GameState} (h : state.gist = other.gist) (hour : Nat)
    (condition : Document) : evaluate hour state condition = evaluate hour other condition :=
  evaluate_congr fun fields _ => by
    rw [← Leaf.evaluate_gist hour state, h, Leaf.evaluate_gist]

/-! ## Achievements that a condition asks for -/

/-- Somewhere a condition asks whether an achievement was unlocked. -/
def AsksFor (condition achievement : Document) : Prop :=
  ∃ fields, Contains condition fields ∧ Subject.find? fields = some .hasAchievement ∧
    (Leaf.target fields .hasAchievement).equals achievement = true

/-- What counts as no condition asks for nothing. -/
theorem not_asksFor_of_falsy {condition : Document} (h : condition.isTruthy = false)
    (achievement : Document) : ¬AsksFor condition achievement := by
  rintro ⟨fields, inside, -⟩
  cases condition with
  | list members =>
    cases members with
    | nil => cases inside with
      | conjunct written mem =>
        cases written
        cases mem
      | leaf written | disjunct written | negated written => cases written
    | cons member members => cases h
  | object entries =>
    cases entries with
    | nil => cases inside with
      | leaf written | conjunct written | disjunct written | negated written => cases written
    | cons entry entries => cases h
  | null | bool _ | number _ | text _ => cases inside with
    | leaf written | conjunct written | disjunct written | negated written => cases written

/-- Achievements that a condition does not ask for make no difference to its answer. -/
theorem evaluate_of_unasked {condition : Document} {more : List Document}
    (unasked : ∀ id ∈ more, ¬AsksFor condition id) (hour : Nat) (state : GameState)
    (ids : List Document) :
    evaluate hour (state.withAchievements (ids ++ more)) condition =
      evaluate hour (state.withAchievements ids) condition := by
  refine evaluate_congr fun fields inside => ?_
  unfold Leaf.evaluate
  cases asked : Subject.find? fields with
  | none => rfl
  | some subject =>
    have same (operator : Operator) :
        Leaf.answer hour (state.withAchievements (ids ++ more)) fields subject operator =
          Leaf.answer hour (state.withAchievements ids) fields subject operator := by
      cases subject with
      | hasAchievement =>
        have absent : more.any (Leaf.target fields .hasAchievement).equals = false := by
          rw [List.any_eq_false]
          intro id mem same
          exact unasked id mem ⟨fields, inside, asked, same⟩
        change (ids ++ more).any _ = ids.any _
        rw [List.any_append, absent, Bool.or_false]
      | quantity q => cases q <;> rfl
      | _ => rfl
    simp only [same]

end Condition

end InteractiveFiction
