import InteractiveFiction.Proofs.Condition.Asking
import InteractiveFiction.Proofs.Fields
import InteractiveFiction.Story.Check
import InteractiveFiction.Story.Decision

/-!
Requirements of choices in accepted stories.

The check of a story turns each requirement into a condition and looks no further: the operator
that the author wrote is first read when a player selects the choice.  So a requirement of an
accepted story always stands for a condition, and that condition has an answer exactly if the
operator is one of those known and what is looked up can be a key.
-/

set_option autoImplicit false

namespace InteractiveFiction

/-! ## The leaf of a requirement -/

namespace Requirement

variable {requirement : Requirement}

/-- Whether the key of a requirement is looked up among the player's attributes, the flags or the
relationships. -/
def looksUp (requirement : Requirement) : Bool :=
  match requirement.type with
  | .text "stat" | .text "flag" | .text "relationship" => true
  | _ => false

/-- What the leaf of a requirement asks about, and that it asks nothing else. -/
structure Leafs (requirement : Requirement) (leaf : Fields) (subject : Subject) : Prop where
  about : Subject.find? leaf = some subject
  plain : ∀ key ∈ ["and", "or", "not", "op", subject.operatorKey], leaf.lookup key = none
  looksUp : subject.looksUp = requirement.looksUp
  target : subject.looksUp = true → Leaf.target leaf subject = requirement.key

theorem leafs_of_leaf? {leaf : Fields} (h : requirement.leaf? = some leaf) :
    ∃ subject, Leafs requirement leaf subject := by
  unfold leaf? at h
  split at h <;> rename_i type
  case' h_1 => refine ⟨.quantity .level, ?_⟩
  case' h_2 => refine ⟨.quantity .health, ?_⟩
  case' h_3 => refine ⟨.quantity .mana, ?_⟩
  case' h_4 => refine ⟨.quantity .gold, ?_⟩
  case' h_5 => refine ⟨.quantity .experience, ?_⟩
  case' h_6 => refine ⟨.playerStat, ?_⟩
  case' h_7 => refine ⟨.itemCount, ?_⟩
  case' h_8 => refine ⟨.flag, ?_⟩
  case' h_9 => refine ⟨.relationship, ?_⟩
  case' h_10 => refine ⟨.hasAchievement, ?_⟩
  case' h_11 => refine ⟨.visitedScene, ?_⟩
  case h_12 => cases h
  all_goals
    cases h
    refine ⟨rfl, ?_, ?_, ?_⟩
    · simp [Subject.operatorKey, Subject.key, Quantity.key, List.lookup_cons]
    · simp [looksUp, type, Subject.looksUp]
    · simp [Subject.looksUp, Leaf.target, Fields.getD, Subject.key, List.lookup_cons]

/-- The leaf with the operator that the author wrote, if any. -/
def withOperator (requirement : Requirement) (leaf : Fields) : Fields :=
  if requirement.operator.isTruthy then leaf.put "op" requirement.operator else leaf

theorem lookup_withOperator (leaf : Fields) {key : String} (ne : key ≠ "op") :
    List.lookup key (requirement.withOperator leaf) = List.lookup key leaf := by
  unfold withOperator
  split
  · rw [Fields.lookup_put, if_neg ne]
  · rfl

theorem find?_withOperator (leaf : Fields) :
    Subject.find? (requirement.withOperator leaf) = Subject.find? leaf := by
  unfold Subject.find? Fields.has
  congr 1
  funext subject
  rw [lookup_withOperator leaf subject.key_ne_op]

/-- No operator is written, or one that is known. -/
def OperatorKnown (requirement : Requirement) : Prop :=
  requirement.operator.isTruthy = true →
    (Operator.ofDocument? requirement.operator).isSome = true

/-- What is looked up can be a key. -/
def KeyUsable (requirement : Requirement) : Prop :=
  requirement.looksUp = true → requirement.key.isKey = true

theorem operatorDocument_withOperator {leaf : Fields} {subject : Subject}
    (leafs : Leafs requirement leaf subject) :
    Leaf.operatorDocument (requirement.withOperator leaf) subject =
      if requirement.operator.isTruthy then requirement.operator
      else .text subject.defaultOperator.name := by
  have noOp : leaf.lookup "op" = none := leafs.plain "op" (by simp)
  have noOwn : leaf.lookup subject.operatorKey = none := leafs.plain subject.operatorKey (by simp)
  unfold Leaf.operatorDocument Fields.getOr
  rw [lookup_withOperator leaf subject.operatorKey_ne_op, noOwn]
  unfold withOperator
  split
  · rename_i written
    rw [Fields.lookup_put, if_pos rfl]
    simp [Document.orElse, written]
  · rw [noOp]
    rfl

/-- The operator is read without a fault exactly if it is known; one that is not known is a fault
of the content. -/
theorem operator_withOperator {leaf : Fields} {subject : Subject}
    (leafs : Leafs requirement leaf subject) :
    (requirement.OperatorKnown ∧
      ∃ operator, Leaf.operator (requirement.withOperator leaf) subject = .ok operator) ∨
    (¬ requirement.OperatorKnown ∧
      ∃ fault, Leaf.operator (requirement.withOperator leaf) subject = .error (.content fault)) := by
  unfold Leaf.operator OperatorKnown
  rw [operatorDocument_withOperator leafs]
  by_cases written : requirement.operator.isTruthy = true
  · cases known : Operator.ofDocument? requirement.operator with
    | some operator =>
      left
      simp [written, known, pure, Except.pure]
    | none =>
      right
      simp [written, known, throw, throwThe, MonadExceptOf.throw]
  · left
    simp [written, Operator.ofDocument?_name, pure, Except.pure]

theorem requireKey_withOperator {leaf : Fields} {subject : Subject}
    (leafs : Leafs requirement leaf subject) :
    Leaf.requireKey (requirement.withOperator leaf) subject =
      if requirement.looksUp && !requirement.key.isKey then
        .error (.mistyped (.notAKey requirement.key.kind))
      else .ok () := by
  have target : Leaf.target (requirement.withOperator leaf) subject = Leaf.target leaf subject := by
    unfold Leaf.target Fields.getD
    rw [lookup_withOperator leaf subject.key_ne_op]
  unfold Leaf.requireKey
  rw [target]
  cases looksUp : subject.looksUp with
  | true =>
    have own : requirement.looksUp = true := by rw [← leafs.looksUp, looksUp]
    rw [leafs.target looksUp, own]
    rfl
  | false =>
    have own : requirement.looksUp = false := by rw [← leafs.looksUp, looksUp]
    rw [own]
    rfl

theorem withOperator_ne_nil {leaf : Fields} {subject : Subject}
    (leafs : Leafs requirement leaf subject) : requirement.withOperator leaf ≠ [] := by
  intro empty
  have about := leafs.about
  rw [← find?_withOperator, empty] at about
  cases about

theorem shape_withOperator {leaf : Fields} {subject : Subject}
    (leafs : Leafs requirement leaf subject) :
    Condition.shape (.object (requirement.withOperator leaf)) =
      .leaf (requirement.withOperator leaf) := by
  have none {key : String} (ne : key ≠ "op")
      (mem : key ∈ ["and", "or", "not", "op", subject.operatorKey]) :
      List.lookup key (requirement.withOperator leaf) = none := by
    rw [lookup_withOperator leaf ne]
    exact leafs.plain key mem
  have noAnd := none (by decide : "and" ≠ "op") (by simp)
  have noOr := none (by decide : "or" ≠ "op") (by simp)
  have noNot := none (by decide : "not" ≠ "op") (by simp)
  simp [Condition.shape, noAnd, noOr, noNot, withOperator_ne_nil leafs]

theorem toCondition_of_leaf? {leaf : Fields} (h : requirement.leaf? = some leaf) :
    requirement.toCondition = .ok (.object (requirement.withOperator leaf)) := by
  unfold toCondition
  rw [h]
  rfl

/-! ## Asking a requirement -/

/-- Asking what a requirement stands for has an answer exactly if its operator is known and what it
looks up can be a key; it is refused as malformed exactly if the operator is not known. -/
theorem asked_of_leaf? {leaf : Fields} (h : requirement.leaf? = some leaf) (hour : Nat)
    (state : GameState) :
    ((∃ answer, Condition.evaluate hour state (.object (requirement.withOperator leaf)) =
        .ok answer) ↔ requirement.OperatorKnown ∧ requirement.KeyUsable) ∧
    ((∃ fault, Condition.evaluate hour state (.object (requirement.withOperator leaf)) =
        .error fault ∧ fault.isOfContent = true) ↔ ¬ requirement.OperatorKnown) := by
  obtain ⟨subject, leafs⟩ := leafs_of_leaf? h
  have shape := shape_withOperator leafs
  have asked : Condition.evaluate hour state (.object (requirement.withOperator leaf)) =
      Leaf.evaluate hour state (requirement.withOperator leaf) := by
    have truthy : (Document.object (requirement.withOperator leaf)).isTruthy = true := by
      simpa [Document.isTruthy] using withOperator_ne_nil leafs
    rw [Condition.evaluate_of_truthy truthy, Condition.evaluateNode_eq, shape]
  have about : Subject.find? (requirement.withOperator leaf) = some subject := by
    rw [find?_withOperator, leafs.about]
  rw [asked]
  unfold Leaf.evaluate
  simp only [about, requireKey_withOperator leafs]
  obtain ⟨known, operator, hop⟩ | ⟨unknown, fault, hop⟩ := operator_withOperator leafs
  · cases usable : requirement.looksUp && !requirement.key.isKey with
    | true =>
      rw [Bool.and_eq_true, Bool.not_eq_true'] at usable
      have unusable : ¬ requirement.KeyUsable := by simp [KeyUsable, usable]
      simp [hop, known, unusable, bind, Except.bind, Fault.isOfContent]
    | false =>
      have usable : requirement.KeyUsable := by
        intro looksUp
        rw [looksUp, Bool.true_and, Bool.not_eq_false'] at usable
        exact usable
      simp [hop, known, usable, bind, Except.bind, pure, Except.pure]
  · simp [hop, unknown, bind, Except.bind, Fault.isOfContent]

end Requirement

/-! ## Accepted stories -/

namespace StoryCheck

theorem errors_append (a b : StoryCheck) : (a ++ b).errors = a.errors ++ b.errors :=
  rfl

theorem errors_foldl (checks : List StoryCheck) (first : StoryCheck) :
    (checks.foldl append first).errors = first.errors ++ checks.flatMap errors := by
  induction checks generalizing first with
  | nil => simp
  | cons check checks ih =>
    rw [List.foldl_cons, ih]
    simp [append]

theorem errors_join (checks : List StoryCheck) : (join checks).errors = checks.flatMap errors := by
  rw [join, errors_foldl]
  rfl

theorem errors_of_mem_join {checks : List StoryCheck} (clean : (join checks).errors = [])
    {check : StoryCheck} (mem : check ∈ checks) : check.errors = [] := by
  rw [errors_join, List.flatMap_eq_nil_iff] at clean
  exact clean check mem

theorem errors_of_mem_join_mapIdx {α : Type} {f : Nat → α → StoryCheck} {items : List α}
    (clean : (join (items.mapIdx f)).errors = []) {item : α} (mem : item ∈ items) :
    ∃ index, (f index item).errors = [] := by
  obtain ⟨index, bound, rfl⟩ := List.getElem_of_mem mem
  have member : f index items[index] ∈ items.mapIdx f := List.mem_mapIdx.2 ⟨index, bound, rfl⟩
  exact ⟨index, errors_of_mem_join clean member⟩

end StoryCheck

namespace Story

open StoryCheck

theorem errors_of_ensureValid {story : Story} {check : StoryCheck}
    (accepted : story.ensureValid = .ok check) : story.check.errors = [] := by
  unfold ensureValid at accepted
  dsimp only at accepted
  split at accepted
  · cases accepted
  · split at accepted
    · rename_i valid
      simpa [StoryCheck.valid] using valid
    · cases accepted

theorem check_of_ensureValid {story : Story} {check : StoryCheck}
    (accepted : story.ensureValid = .ok check) : check = story.check := by
  unfold ensureValid at accepted
  dsimp only at accepted
  split at accepted
  · cases accepted
  · split at accepted
    · cases accepted
      rfl
    · cases accepted

theorem ensureValid_of_valid {story : Story} (known : story.check.unknown = [])
    (valid : story.check.valid = true) : story.ensureValid = .ok story.check := by
  unfold ensureValid
  simp only [known, valid, if_true]
  rfl

theorem errors_of_checkChoice {story : Story} (clean : story.check.errors = []) {choice : Choice}
    (mem : choice ∈ story.choices) : (story.checkChoice choice).errors = [] := by
  unfold Story.check at clean
  simp only [errors_append, List.append_eq_nil_iff] at clean
  obtain ⟨⟨⟨⟨⟨⟨-, choices⟩, -⟩, -⟩, -⟩, -⟩, -⟩ := clean
  exact errors_of_mem_join choices (List.mem_map_of_mem mem)

theorem errors_of_checkRequirement {story : Story} {choice : Choice}
    (clean : (story.checkChoice choice).errors = []) {requirement : Requirement}
    (mem : requirement ∈ choice.requirements) :
    ∃ place index, (checkRequirement place index requirement).errors = [] := by
  unfold checkChoice at clean
  simp only [errors_append, List.append_eq_nil_iff] at clean
  obtain ⟨⟨⟨⟨-, requirements⟩, -⟩, -⟩, -⟩ := clean
  exact ⟨_, errors_of_mem_join_mapIdx requirements mem⟩

/-- Each requirement of an accepted story stands for a condition. -/
theorem leaf?_of_ensureValid {story : Story} {check : StoryCheck}
    (accepted : story.ensureValid = .ok check) {choice : Choice} (mem : choice ∈ story.choices)
    {requirement : Requirement} (required : requirement ∈ choice.requirements) :
    ∃ leaf, requirement.leaf? = some leaf := by
  have clean := errors_of_checkChoice (errors_of_ensureValid accepted) mem
  obtain ⟨place, index, clean⟩ := errors_of_checkRequirement clean required
  cases known : requirement.leaf? with
  | some leaf => exact ⟨leaf, rfl⟩
  | none =>
    unfold checkRequirement Requirement.toCondition at clean
    rw [known] at clean
    cases clean

/-- In an accepted story every requirement of a choice stands for a condition.  That condition has
an answer exactly if the operator is known and what it looks up can be a key, and it is refused as
malformed exactly if the operator is not known. -/
theorem accepted_requirement_answers_iff {story : Story} {check : StoryCheck}
    (accepted : story.ensureValid = .ok check) {choice : Choice} (mem : choice ∈ story.choices)
    {requirement : Requirement} (required : requirement ∈ choice.requirements) :
    ∃ condition, requirement.toCondition = .ok condition ∧ ∀ hour state,
      ((∃ answer, Condition.evaluate hour state condition = .ok answer) ↔
        requirement.OperatorKnown ∧ requirement.KeyUsable) ∧
      ((∃ fault, Condition.evaluate hour state condition = .error fault ∧
        fault.isOfContent = true) ↔ ¬ requirement.OperatorKnown) := by
  obtain ⟨leaf, h⟩ := leaf?_of_ensureValid accepted mem required
  exact ⟨_, requirement.toCondition_of_leaf? h, requirement.asked_of_leaf? h⟩

/-! ### A toll -/

namespace Toll

/-- Five pieces of gold, asked for with an operator that there is not. -/
def unreadable : Requirement where
  type := "gold"
  operator := "at least"
  value := .int 5

def readable : Requirement :=
  { unreadable with operator := "gte" }

def cross : Choice where
  id := "cross"
  requirements := [unreadable, readable]

def bridge : Story where
  id := "bridge"
  title := "The bridge"
  startingSceneId := "bank"
  scenes := [{ id := "bank", choiceIds := ["cross"] }]
  choices := [cross]

theorem bridge_accepted : bridge.ensureValid = .ok bridge.check :=
  ensureValid_of_valid (by decide +kernel) (by decide +kernel)

end Toll

open Toll in
theorem readable_toll_answered :
    bridge.ensureValid = .ok bridge.check ∧ cross ∈ bridge.choices ∧
      readable ∈ cross.requirements ∧
      ∃ condition, readable.toCondition = .ok condition ∧
        ∀ hour state, ∃ answer, Condition.evaluate hour state condition = .ok answer := by
  have mem : cross ∈ bridge.choices := by simp [bridge]
  have required : readable ∈ cross.requirements := by simp [cross]
  obtain ⟨condition, stands, answers⟩ :=
    accepted_requirement_answers_iff bridge_accepted mem required
  refine ⟨bridge_accepted, mem, required, condition, stands, fun hour state => ?_⟩
  exact (answers hour state).1.2 ⟨fun _ => rfl, fun looksUp => by cases looksUp⟩

open Toll in
/-- The story is accepted, and its first requirement is refused whenever it is asked. -/
theorem unreadable_toll_refused :
    bridge.ensureValid = .ok bridge.check ∧ cross ∈ bridge.choices ∧
      unreadable ∈ cross.requirements ∧
      ∃ condition, unreadable.toCondition = .ok condition ∧
        ∀ hour state, Condition.evaluate hour state condition =
          .error (.content (.unknownOperator "at least" condition)) := by
  refine ⟨bridge_accepted, by simp [bridge], by simp [cross], _, rfl, fun hour state => ?_⟩
  rw [Condition.evaluate_of_truthy rfl, Condition.evaluateNode_eq]
  rfl

end Story

end InteractiveFiction
