import Mathlib.Logic.Relation
import InteractiveFiction.Condition

/-!
Which parts of a condition are asked, and what goes wrong there.

* `Condition.Visits`: one step from a node to a member that is asked.  Members are asked in order:
  one of `and`, or of a list, after those that hold, one of `or` after those that do not.
* `Condition.flaw?`: what is wrong with a node by itself, whatever its members say.
* `Condition.evaluateNode_error_iff`: asking a condition fails exactly with the flaw of a part that
  it comes to.

Asking for the opposites of members, in their order, stops where asking for the members does and
comes to the opposite answer: what decides one way for a member decides the other way for its
opposite.  So the opposite of `and` is `or` of the opposites, and the other way round
(`Condition.restatements`), also where a member is malformed.
-/

set_option autoImplicit false

namespace InteractiveFiction

open Relation

/-! ## Leaves -/

theorem Operator.ofDocument?_name (operator : Operator) :
    Operator.ofDocument? (.text operator.name) = some operator := by
  cases operator <;> rfl

theorem Subject.key_ne_op (subject : Subject) : subject.key ≠ "op" := by
  cases subject with
  | quantity q => cases q <;> decide
  | _ => decide

theorem Subject.operatorKey_ne_op (subject : Subject) : subject.operatorKey ≠ "op" := by
  cases subject with
  | quantity q => cases q <;> decide
  | _ => decide

namespace Leaf

/-- What is wrong with a leaf: its operator, or else what it looks up. -/
def flaw? (fields : Fields) : Option Fault :=
  match Subject.find? fields with
  | none => none
  | some subject =>
    match operator fields subject with
    | .error fault => some fault
    | .ok _ =>
      match requireKey fields subject with
      | .error fault => some fault
      | .ok () => none

theorem evaluate_error_iff (hour : Nat) (state : GameState) (fields : Fields) (fault : Fault) :
    evaluate hour state fields = .error fault ↔ flaw? fields = some fault := by
  unfold evaluate flaw?
  cases Subject.find? fields with
  | none => simp [pure, Except.pure]
  | some subject =>
    cases hop : operator fields subject with
    | error other => simp [hop, bind, Except.bind]
    | ok operator =>
      cases hkey : requireKey fields subject with
      | error other => simp [hop, hkey, bind, Except.bind]
      | ok => simp [hop, hkey, bind, Except.bind, pure, Except.pure]

end Leaf

namespace Condition

variable {hour : Nat} {state : GameState}

/-! ## Members in order -/

/-- Asks members in order, until the first whose answer is the one that decides. -/
def askUntil (hour : Nat) (state : GameState) (decisive : Bool) : List Document → Result Bool
  | [] => pure !decisive
  | member :: members => do
    if (← evaluateNode hour state member) = decisive then pure decisive
    else askUntil hour state decisive members

theorem evaluateAll_eq (members : List Document) :
    evaluateAll hour state members = askUntil hour state false members := by
  induction members with
  | nil =>
    rw [evaluateAll]
    rfl
  | cons member members ih =>
    rw [evaluateAll, askUntil, ih]
    cases evaluateNode hour state member with
    | error fault => rfl
    | ok held => cases held <;> rfl

theorem evaluateAny_eq (members : List Document) :
    evaluateAny hour state members = askUntil hour state true members := by
  induction members with
  | nil =>
    rw [evaluateAny]
    rfl
  | cons member members ih =>
    rw [evaluateAny, askUntil, ih]

/-- The members before a given one did not decide, so that it is asked. -/
def Undecided (hour : Nat) (state : GameState) (decisive : Bool) (earlier : List Document) : Prop :=
  ∀ member ∈ earlier, evaluateNode hour state member = .ok !decisive

theorem askUntil_of_undecided {decisive : Bool} {earlier : List Document}
    (undecided : Undecided hour state decisive earlier) (members : List Document) :
    askUntil hour state decisive (earlier ++ members) = askUntil hour state decisive members := by
  induction earlier with
  | nil => rfl
  | cons first earlier ih =>
    have answer := undecided first (by simp)
    rw [List.cons_append, askUntil, answer]
    have rest := ih fun member mem => undecided member (List.mem_cons_of_mem first mem)
    simpa [bind, Except.bind] using rest

theorem askUntil_error_iff {decisive : Bool} {members : List Document} {fault : Fault} :
    askUntil hour state decisive members = .error fault ↔
      ∃ earlier member later, members = earlier ++ member :: later ∧
        Undecided hour state decisive earlier ∧
        evaluateNode hour state member = .error fault := by
  constructor
  · intro h
    induction members with
    | nil => cases h
    | cons first rest ih =>
      rw [askUntil] at h
      cases hfirst : evaluateNode hour state first with
      | error other =>
        rw [hfirst] at h
        cases h
        exact ⟨[], first, rest, rfl, by simp [Undecided], hfirst⟩
      | ok answer =>
        by_cases decides : answer = decisive
        · simp [hfirst, decides, bind, Except.bind, pure, Except.pure] at h
        · simp only [hfirst, bind, Except.bind, decides, if_false] at h
          obtain ⟨earlier, member, later, rfl, undecided, fails⟩ := ih h
          refine ⟨first :: earlier, member, later, rfl, ?_, fails⟩
          have other : answer = !decisive := by cases answer <;> cases decisive <;> simp_all
          simpa [Undecided, hfirst, other] using undecided
  · rintro ⟨earlier, member, later, rfl, undecided, fails⟩
    rw [askUntil_of_undecided undecided, askUntil, fails]
    rfl

/-! ## Shapes -/

/-- How a node is asked: all of its members, any of them, the opposite of one, or itself. -/
inductive Shape where
  | all (members : List Document)
  | any (members : List Document)
  | negation (inner : Fields)
  | vacuous
  | leaf (fields : Fields)
  | broken (fault : ContentFault)

def shape : Document → Shape
  | .list members => .all members
  | .object fields =>
    match fields.lookup "and" with
    | some (.list members) => .all members
    | some _ => .broken (.combinatorNotList "and")
    | none =>
      match fields.lookup "or" with
      | some (.list members) => .any members
      | some _ => .broken (.combinatorNotList "or")
      | none =>
        match fields.lookup "not" with
        | some (.object inner) => .negation inner
        | some _ => .broken .negationNotObject
        | none => if fields.isEmpty then .vacuous else .leaf fields
  | node => .broken (.conditionNotObject node.kind)

theorem evaluateNode_eq (node : Document) :
    evaluateNode hour state node =
      match shape node with
      | .all members => askUntil hour state false members
      | .any members => askUntil hour state true members
      | .negation inner => (evaluateNode hour state (.object inner)).map (!·)
      | .vacuous => .ok true
      | .leaf fields => Leaf.evaluate hour state fields
      | .broken fault => .error (.content fault) := by
  cases node with
  | list members =>
    rw [evaluateNode, evaluateAll_eq]
    rfl
  | object fields =>
    rw [evaluateNode, shape]
    split
    · simp only [*, evaluateAll_eq]
    · simp only [*]; rfl
    · split
      · simp only [*, evaluateAny_eq]
      · simp only [*]; rfl
      · split
        · simp only [*]
          rename_i inner _
          cases evaluateNode hour state (.object inner) <;> rfl
        · simp only [*]; rfl
        · simp only [*]
          split <;> rfl
  | null =>
    unfold evaluateNode
    rfl
  | bool b =>
    unfold evaluateNode
    rfl
  | number n =>
    unfold evaluateNode
    rfl
  | text s =>
    unfold evaluateNode
    rfl

theorem evaluate_of_truthy {condition : Document} (truthy : condition.isTruthy = true) :
    evaluate hour state condition = evaluateNode hour state condition := by
  rw [evaluate, if_pos truthy]

theorem evaluate_list (members : List Document) :
    evaluate hour state (.list members) = askUntil hour state false members := by
  cases members with
  | nil => rfl
  | cons member members =>
    rw [evaluate_of_truthy rfl, evaluateNode_eq]
    rfl

/-- What is empty holds as a node too. -/
theorem evaluate_object (fields : Fields) :
    evaluate hour state (.object fields) = evaluateNode hour state (.object fields) := by
  cases fields with
  | nil =>
    rw [evaluateNode_eq]
    rfl
  | cons field fields => exact evaluate_of_truthy rfl

/-- The members of a node are smaller than it. -/
theorem sizeOf_lt_of_shape (node : Document) :
    match shape node with
    | .all members | .any members => ∀ member ∈ members, sizeOf member < sizeOf node
    | .negation inner => sizeOf (Document.object inner) < sizeOf node
    | _ => True := by
  cases node with
  | list members =>
    intro member mem
    have := List.sizeOf_lt_of_mem mem
    simp only [Document.list.sizeOf_spec]
    omega
  | object fields =>
    have below {key : String} {d : Document} (found : fields.lookup key = some d) :
        sizeOf d < sizeOf (Document.object fields) := by
      have := sizeOf_lt_of_lookup found
      simp only [Document.object.sizeOf_spec]
      omega
    have within {key : String} {members : List Document}
        (found : fields.lookup key = some (.list members)) (member : Document)
        (mem : member ∈ members) : sizeOf member < sizeOf (Document.object fields) := by
      have := below found
      have := List.sizeOf_lt_of_mem mem
      simp only [Document.list.sizeOf_spec] at *
      omega
    cases hand : fields.lookup "and" with
    | some d =>
      cases d with
      | list members => simpa [shape, hand] using within hand
      | _ => simp [shape, hand]
    | none =>
      cases hor : fields.lookup "or" with
      | some d =>
        cases d with
        | list members => simpa [shape, hand, hor] using within hor
        | _ => simp [shape, hand, hor]
      | none =>
        cases hnot : fields.lookup "not" with
        | some d =>
          cases d with
          | object inner => simpa [shape, hand, hor, hnot] using below hnot
          | _ => simp [shape, hand, hor, hnot]
        | none =>
          cases fields <;> simp [shape, hand, hor, hnot]
  | null | bool b | number n | text s => trivial

/-! ## Visits -/

/-- Asking the first node comes to ask the second, one of its members. -/
inductive Visits (hour : Nat) (state : GameState) : Document → Document → Prop
  | conjunct {node : Document} (earlier : List Document) (member : Document)
      (later : List Document) (written : shape node = .all (earlier ++ member :: later))
      (undecided : Undecided hour state false earlier) : Visits hour state node member
  | disjunct {node : Document} (earlier : List Document) (member : Document)
      (later : List Document) (written : shape node = .any (earlier ++ member :: later))
      (undecided : Undecided hour state true earlier) : Visits hour state node member
  | negated {node : Document} (inner : Fields) (written : shape node = .negation inner) :
      Visits hour state node (.object inner)

theorem sizeOf_lt_of_visits {node member : Document} (visits : Visits hour state node member) :
    sizeOf member < sizeOf node := by
  have smaller := sizeOf_lt_of_shape node
  cases visits with
  | conjunct earlier _ later written =>
    rw [written] at smaller
    exact smaller member (by simp)
  | disjunct earlier _ later written =>
    rw [written] at smaller
    exact smaller member (by simp)
  | negated inner written =>
    rw [written] at smaller
    exact smaller

/-! ## Where asking fails -/

/-- What is wrong with a node by itself, whatever its members say. -/
def flaw? (node : Document) : Option Fault :=
  match shape node with
  | .leaf fields => Leaf.flaw? fields
  | .broken fault => some (.content fault)
  | _ => none

/-- A node fails by its own flaw, or as a member does that it visits. -/
theorem evaluateNode_error_step {node : Document} {fault : Fault} :
    evaluateNode hour state node = .error fault ↔
      flaw? node = some fault ∨
        ∃ member, Visits hour state node member ∧
          evaluateNode hour state member = .error fault := by
  rw [evaluateNode_eq]
  constructor
  · intro h
    cases written : shape node with
    | all members =>
      simp only [written] at h
      obtain ⟨earlier, member, later, rfl, undecided, fails⟩ := askUntil_error_iff.1 h
      exact .inr ⟨member, .conjunct earlier member later written undecided, fails⟩
    | any members =>
      simp only [written] at h
      obtain ⟨earlier, member, later, rfl, undecided, fails⟩ := askUntil_error_iff.1 h
      exact .inr ⟨member, .disjunct earlier member later written undecided, fails⟩
    | negation inner =>
      simp only [written] at h
      cases answer : evaluateNode hour state (.object inner) with
      | ok held => simp [answer, Except.map] at h
      | error other =>
        rw [answer] at h
        cases h
        exact .inr ⟨.object inner, .negated inner written, answer⟩
    | vacuous => simp [written] at h
    | leaf fields =>
      simp only [written] at h
      left
      simpa [flaw?, written] using (Leaf.evaluate_error_iff hour state fields fault).1 h
    | broken other =>
      simp only [written] at h
      left
      simpa [flaw?, written] using h
  · rintro (flawed | ⟨member, visits, fails⟩)
    · unfold flaw? at flawed
      split at flawed
      · rename_i written
        simpa only [written] using (Leaf.evaluate_error_iff hour state _ fault).2 flawed
      · rename_i written
        simpa [written] using flawed
      · cases flawed
    · cases visits with
      | conjunct earlier _ later written undecided =>
        simp only [written]
        exact askUntil_error_iff.2 ⟨earlier, member, later, rfl, undecided, fails⟩
      | disjunct earlier _ later written undecided =>
        simp only [written]
        exact askUntil_error_iff.2 ⟨earlier, member, later, rfl, undecided, fails⟩
      | negated inner written =>
        simp only [written, fails]
        rfl

/-- Asking fails with a fault exactly if it comes to a part whose flaw that is. -/
theorem evaluateNode_error_iff {node : Document} {fault : Fault} :
    evaluateNode hour state node = .error fault ↔
      ∃ part, ReflTransGen (Visits hour state) node part ∧ flaw? part = some fault := by
  constructor
  · intro h
    obtain flawed | ⟨member, visits, fails⟩ := evaluateNode_error_step.1 h
    · exact ⟨node, .refl, flawed⟩
    · have := sizeOf_lt_of_visits visits
      obtain ⟨part, reached, flawed⟩ := evaluateNode_error_iff.1 fails
      exact ⟨part, .head visits reached, flawed⟩
  · rintro ⟨part, reached, flawed⟩
    induction reached using ReflTransGen.head_induction_on with
    | refl => exact evaluateNode_error_step.2 (.inl flawed)
    | head visits _ fails => exact evaluateNode_error_step.2 (.inr ⟨_, visits, fails⟩)
termination_by sizeOf node

/-! ## The same in other words -/

section Restated

def conjunction (members : List Document) : Document :=
  .object [("and", .list members)]

def disjunction (members : List Document) : Document :=
  .object [("or", .list members)]

/-- The opposite of an object. -/
def opposite (inner : Fields) : Document :=
  .object [("not", .object inner)]

theorem shape_conjunction (members : List Document) :
    shape (conjunction members) = .all members :=
  rfl

theorem shape_disjunction (members : List Document) :
    shape (disjunction members) = .any members :=
  rfl

theorem shape_opposite (inner : Fields) : shape (opposite inner) = .negation inner :=
  rfl

variable (hour state)

theorem evaluate_conjunction (members : List Document) :
    evaluate hour state (conjunction members) = askUntil hour state false members := by
  rw [conjunction, evaluate_object, ← conjunction, evaluateNode_eq, shape_conjunction]

theorem evaluate_disjunction (members : List Document) :
    evaluate hour state (disjunction members) = askUntil hour state true members := by
  rw [disjunction, evaluate_object, ← disjunction, evaluateNode_eq, shape_disjunction]

theorem evaluateNode_opposite (inner : Fields) :
    evaluateNode hour state (opposite inner) =
      (evaluateNode hour state (.object inner)).map (!·) := by
  rw [evaluateNode_eq, shape_opposite]

theorem evaluate_opposite (inner : Fields) :
    evaluate hour state (opposite inner) = (evaluate hour state (.object inner)).map (!·) := by
  rw [opposite, evaluate_object, ← opposite, evaluateNode_opposite, evaluate_object]

/-! ## Opposites in order -/

/-- Opposites are asked as far as what they are the opposites of. -/
theorem askUntil_opposites (decisive : Bool) (objects : List Fields) :
    askUntil hour state (!decisive) (objects.map opposite) =
      (askUntil hour state decisive (objects.map .object)).map (!·) := by
  induction objects with
  | nil => rfl
  | cons first rest ih =>
    rw [List.map_cons, List.map_cons, askUntil, askUntil, evaluateNode_opposite, ih]
    cases evaluateNode hour state (.object first) with
    | error fault => rfl
    | ok held => cases held <;> cases decisive <;> rfl

theorem map_not_not (answer : Result Bool) : (answer.map (!·)).map (!·) = answer := by
  cases answer with
  | error fault => rfl
  | ok held => exact congrArg Except.ok (Bool.not_not held)

/-- A list is asked as `and` of its members, the opposite of `and` is `or` of the opposites, that of
`or` is `and` of the opposites, and the opposite of the opposite of an object is the object.  Where
one side fails the other fails with the same fault. -/
theorem restatements (members : List Document) (objects : List Fields) (inner : Fields) :
    evaluate hour state (.list members) = evaluate hour state (conjunction members) ∧
    evaluate hour state (opposite [("and", .list (objects.map .object))]) =
      evaluate hour state (disjunction (objects.map opposite)) ∧
    evaluate hour state (opposite [("or", .list (objects.map .object))]) =
      evaluate hour state (conjunction (objects.map opposite)) ∧
    evaluate hour state (opposite [("not", .object inner)]) =
      evaluate hour state (.object inner) := by
  refine ⟨?list, ?and, ?or, ?not⟩
  case list => rw [evaluate_list, evaluate_conjunction]
  case and =>
    rw [evaluate_opposite, ← conjunction, evaluate_conjunction, evaluate_disjunction]
    exact (askUntil_opposites hour state false objects).symm
  case or =>
    rw [evaluate_opposite, ← disjunction, evaluate_disjunction, evaluate_conjunction]
    exact (askUntil_opposites hour state true objects).symm
  case not => rw [evaluate_opposite, ← opposite, evaluate_opposite, map_not_not]

end Restated

end Condition

end InteractiveFiction
