import Mathlib.Data.List.Find
import InteractiveFiction.Proofs.Condition.Stray

/-!
What leaves make of their operators.

An operator is written under `op` or under a key of the subject's own.  Whatever the subject is,
checking accepts any operator there, but not every leaf compares something by it.

* `Leaf.Alike`: objects that say the same as leaves, apart from their operators.
* `Leaf.heedsOperator`: leaves about amounts compare them, a leaf about a flag compares its value
  where it writes one, and all others answer alike whatever operator they have.
* `Condition.opposed_iff`: so `exists` and `nexists` are opposites of these leaves only.
* `Condition.comparisons_iff`: among targets, and among none of them, as one comparison for each.
  A stat that a player is without is among no targets, and different from none of them.
-/

set_option autoImplicit false

namespace InteractiveFiction

/-! ## Lookups -/

namespace Fields

theorem getD_put (fields : Fields) (key other : String) (value default : Document) :
    (fields.put key value).getD other default =
      if other = key then value else fields.getD other default := by
  rw [getD, lookup_put]
  split
  · rfl
  · rfl

theorem has_put (fields : Fields) (key other : String) (value : Document) :
    (fields.put key value).has other = (decide (other = key) || fields.has other) := by
  rw [has, lookup_put]
  by_cases same : other = key
  · simp [same]
  · simp [same, has]

theorem has_of_mem {fields : Fields} {entry : String × Document} (mem : entry ∈ fields) :
    fields.has entry.1 = true := by
  cases found : fields.has entry.1 with
  | true => rfl
  | false =>
    have none := List.lookup_eq_none_iff.1 (lookup_of_not_has (Bool.eq_false_iff.1 found)) entry mem
    simp at none

end Fields

/-! ## Leaves with another operator -/

namespace Subject

theorem mem_all (subject : Subject) : subject ∈ all := by
  cases subject with
  | quantity q => cases q <;> simp [all, Quantity.all]
  | _ => simp [all]

/-- The keys that an operator can be written under. -/
def operatorKeys (subject : Subject) : List String :=
  ["op", subject.operatorKey]

theorem mem_modifierKeys {subject : Subject} {key : String} (mem : key ∈ subject.operatorKeys) :
    key ∈ modifierKeys := by
  obtain rfl | own := List.mem_cons.1 mem
  · exact List.mem_append_left _ List.mem_cons_self
  · obtain rfl := List.mem_singleton.1 own
    exact List.mem_append_right _ (List.mem_map_of_mem subject.mem_all)

/-- The key under which a leaf about an amount has its target; other leaves compare no amounts. -/
def targetKey? : Subject → Option String
  | .quantity q => some q.key
  | .playerStat => some "value"
  | .itemCount => some "itemCount"
  | .relationship => some "relationshipValue"
  | _ => none

end Subject

namespace Leaf

/-- A leaf with an operator under one key, and no other operator that would come before it. -/
def withOperator (fields : Fields) (key : String) (operator : Operator) : Fields :=
  (Fields.without fields "op").put key (.text operator.name)

/-- What leaves read beside the keys of their subjects and operators. -/
def qualifiers : List String :=
  ["value", "flagValue", "itemCountId", "relationshipValue"]

/-- The keys by which a node is known to be a leaf, and those that leaves read but for operators. -/
def names : List String :=
  Condition.combinators ++ Subject.all.map Subject.key ++ qualifiers

/-- Two objects that are alike but for operators and for what no leaf reads. -/
def Alike (fields other : Fields) : Prop :=
  ∀ name ∈ names, List.lookup name other = List.lookup name fields

theorem names_apart :
    ∀ subject ∈ Subject.all, ∀ name ∈ names, name ∉ subject.operatorKeys := by
  decide +kernel

theorem mem_names_of_combinator {name : String} (mem : name ∈ Condition.combinators) :
    name ∈ names :=
  List.mem_append_left _ (List.mem_append_left _ mem)

theorem key_mem_names (subject : Subject) : subject.key ∈ names :=
  List.mem_append_left _ (List.mem_append_right _ (List.mem_map_of_mem subject.mem_all))

theorem mem_names_of_qualifier {name : String} (mem : name ∈ qualifiers) : name ∈ names :=
  List.mem_append_right _ mem

variable {fields other : Fields} {subject : Subject} {key : String}

theorem alike_withOperator (about : Subject.find? fields = some subject)
    (spelling : key ∈ subject.operatorKeys) (operator : Operator) :
    Alike fields (withOperator fields key operator) := by
  intro name mem
  have apart := names_apart subject (List.mem_of_find?_eq_some about) name mem
  have notOp : name ≠ "op" := fun same => apart (same ▸ List.mem_cons_self)
  have notKey : name ≠ key := fun same => apart (same ▸ spelling)
  rw [withOperator, Fields.lookup_put, if_neg notKey, Fields.lookup_without, if_neg notOp]

theorem operatorDocument_withOperator (spelling : key ∈ subject.operatorKeys)
    (known : Operator) :
    operatorDocument (withOperator fields key known) subject = .text known.name := by
  have truthy : (Document.text known.name).isTruthy = true := by cases known <;> rfl
  rw [operatorDocument, Fields.getOr, Fields.getOr, withOperator, Fields.lookup_put,
    Fields.lookup_put, Fields.lookup_without, if_pos rfl]
  obtain rfl | own := List.mem_cons.1 spelling
  · rw [if_pos rfl, Document.orElse, if_pos truthy]
  · obtain rfl := List.mem_singleton.1 own
    rw [if_neg subject.operatorKey_ne_op.symm, if_pos rfl, Document.orElse, Document.orElse,
      if_pos truthy]

theorem operator_withOperator (spelling : key ∈ subject.operatorKeys) (known : Operator) :
    operator (withOperator fields key known) subject = .ok known := by
  simp only [operator, operatorDocument_withOperator spelling, Operator.ofDocument?_name]
  rfl

namespace Alike

theorem getD (alike : Alike fields other) {name : String} (mem : name ∈ names)
    (default : Document) : Fields.getD other name default = Fields.getD fields name default := by
  rw [Fields.getD, alike name mem, Fields.getD]

theorem find? (alike : Alike fields other) : Subject.find? other = Subject.find? fields :=
  List.find?_congr fun subject _ => by
    rw [Fields.has, alike _ (key_mem_names subject), Fields.has]

theorem combinator? (alike : Alike fields other) :
    Condition.combinator? other = Condition.combinator? fields :=
  List.find?_congr fun name mem => by
    rw [Fields.has, alike name (mem_names_of_combinator mem), Fields.has]

theorem target (alike : Alike fields other) (subject : Subject) :
    Leaf.target other subject = Leaf.target fields subject :=
  alike.getD (key_mem_names subject) .null

theorem qualifier (alike : Alike fields other) {name : String} (mem : name ∈ qualifiers)
    (default : Document) : Fields.getD other name default = Fields.getD fields name default :=
  alike.getD (mem_names_of_qualifier mem) default

theorem requireKey (alike : Alike fields other) (subject : Subject) :
    Leaf.requireKey other subject = Leaf.requireKey fields subject := by
  rw [Leaf.requireKey, alike.target, Leaf.requireKey]

theorem answer (alike : Alike fields other) (hour : Nat) (state : GameState) (subject : Subject)
    (known : Operator) :
    Leaf.answer hour state other subject known = Leaf.answer hour state fields subject known := by
  have flagValue : Fields.get other "flagValue" = Fields.get fields "flagValue" :=
    alike "flagValue" (mem_names_of_qualifier (by simp [qualifiers]))
  have value := alike.qualifier (by simp [qualifiers] : "value" ∈ qualifiers)
  have itemId := alike.qualifier (by simp [qualifiers] : "itemCountId" ∈ qualifiers)
  have standing := alike.qualifier (by simp [qualifiers] : "relationshipValue" ∈ qualifiers)
  cases subject <;>
    simp only [Leaf.answer, alike.target, flagValue, value, itemId, standing]

end Alike

/-! ## Operators that make a difference -/

/-- Whether a leaf compares something: an amount, or the value of a flag if it writes one. -/
def heedsOperator (fields : Fields) (subject : Subject) : Bool :=
  subject.targetKey?.isSome || (subject == .flag && fields.has "flagValue")

theorem answer_absent (heeds : heedsOperator fields subject = true) (hour : Nat)
    (state : GameState) :
    answer hour state fields subject .absent = !answer hour state fields subject .present := by
  cases subject with
  | quantity _ | playerStat | itemCount | relationship => exact (Bool.not_not _).symm
  | flag =>
    obtain ⟨wanted, written⟩ := Option.isSome_iff_exists.1 heeds
    have flagValue : Fields.get fields "flagValue" = some wanted := written
    simp only [answer, flagValue]
    exact (Bool.not_not _).symm
  | _ => cases heeds

theorem answer_of_heedless (heedless : heedsOperator fields subject = false) (hour : Nat)
    (state : GameState) (known another : Operator) :
    answer hour state fields subject known = answer hour state fields subject another := by
  cases subject with
  | quantity _ | playerStat | itemCount | relationship => cases heedless
  | flag =>
    have flagValue : Fields.get fields "flagValue" = none :=
      Fields.lookup_of_not_has (Bool.eq_false_iff.1 heedless)
    simp only [answer, flagValue]
  | _ => rfl

end Leaf

namespace Condition

variable {fields : Fields} {subject : Subject} {key : String}

/-! ## Leaves as conditions -/

theorem isEmpty_of_about (about : Subject.find? fields = some subject) :
    fields.isEmpty = false := by
  cases fields with
  | nil => cases about
  | cons entry rest => rfl

theorem evaluate_of_leaf (alone : combinator? fields = none)
    (about : Subject.find? fields = some subject) (hour : Nat) (state : GameState) :
    evaluate hour state (.object fields) = Leaf.evaluate hour state fields := by
  rw [evaluate_object, evaluateNode_eq, shape_of_alone alone, isEmpty_of_about about]
  rfl

theorem problems_of_leaf (alone : combinator? fields = none)
    (about : Subject.find? fields = some subject) (path : String) :
    problems path (.object fields) = Leaf.problems path fields := by
  have noAnd := lookup_of_alone alone (show "and" ∈ combinators by decide)
  have noOr := lookup_of_alone alone (show "or" ∈ combinators by decide)
  have noNot := lookup_of_alone alone (show "not" ∈ combinators by decide)
  rw [problems, if_neg (Bool.eq_false_iff.1 (isEmpty_of_about about))]
  split
  case h_1 found => cases noAnd.symm.trans found
  case h_2 found => cases noAnd.symm.trans found
  split
  case h_1 found => cases noOr.symm.trans found
  case h_2 found => cases noOr.symm.trans found
  split
  case h_1 found => cases noNot.symm.trans found
  case h_2 found => cases noNot.symm.trans found
  rfl

/-- A leaf is asked by looking something up, if it can be, and comparing it. -/
theorem evaluate_withOperator (alone : combinator? fields = none)
    (about : Subject.find? fields = some subject) (spelling : key ∈ subject.operatorKeys)
    (known : Operator) (hour : Nat) (state : GameState) :
    evaluate hour state (.object (Leaf.withOperator fields key known)) =
      (Leaf.requireKey fields subject).map fun _ => Leaf.answer hour state fields subject known := by
  have alike := Leaf.alike_withOperator about spelling known
  rw [evaluate_of_leaf (alike.combinator?.trans alone) (alike.find?.trans about), Leaf.evaluate,
    alike.find?, about]
  simp only [Leaf.operator_withOperator spelling, alike.requireKey, alike.answer]
  cases Leaf.requireKey fields subject <;> rfl

/-- Asking a leaf fails exactly if it looks up what is no key. -/
theorem keyless_iff (alone : combinator? fields = none)
    (about : Subject.find? fields = some subject) :
    Keyless (.object fields) ↔ ∃ fault, Leaf.requireKey fields subject = .error fault := by
  have written : shape (.object fields) = .leaf fields := by
    rw [shape_of_alone alone, isEmpty_of_about about]
    rfl
  constructor
  · rintro ⟨own, other, shaped, found, looksUp, noKey⟩
    cases written.symm.trans shaped
    cases about.symm.trans found
    refine ⟨.mistyped (.notAKey (Leaf.target fields subject).kind), ?_⟩
    simp only [Leaf.requireKey, looksUp, noKey]
    rfl
  · rintro ⟨fault, refused⟩
    refine ⟨fields, subject, written, about, ?_⟩
    unfold Leaf.requireKey at refused
    cases looksUp : subject.looksUp <;> cases isKey : (Leaf.target fields subject).isKey <;>
      simp_all [pure, Except.pure]

/-! ## Presence and absence -/

/-- A leaf that is accepted is accepted with whatever operator. -/
theorem problems_withOperator {path : String} (accepted : problems path (.object fields) = [])
    (alone : combinator? fields = none) (about : Subject.find? fields = some subject)
    (spelling : key ∈ subject.operatorKeys) (known : Operator) :
    problems path (.object (Leaf.withOperator fields key known)) = [] := by
  have alike := Leaf.alike_withOperator about spelling known
  rw [problems_of_leaf alone about] at accepted
  obtain ⟨own, found, keys⟩ := keys_of_leaf accepted
  cases about.symm.trans found
  have plain : ∀ entry ∈ Leaf.withOperator fields key known,
      entry.1 = subject.key ∨ entry.1 ∈ modifierKeys := by
    intro entry mem
    have written := Fields.has_of_mem mem
    rw [Leaf.withOperator, Fields.has_put, Bool.or_eq_true, decide_eq_true_iff] at written
    obtain same | kept := written
    · exact .inr (same ▸ Subject.mem_modifierKeys spelling)
    · rw [Fields.has, Fields.lookup_without] at kept
      split at kept
      · cases kept
      · exact keys entry.1 kept
  have operator : Operator.ofDocument?
      (Leaf.operatorDocument (Leaf.withOperator fields key known) subject) = some known := by
    rw [Leaf.operatorDocument_withOperator spelling, Operator.ofDocument?_name]
  rw [problems_of_leaf (alike.combinator?.trans alone) (alike.find?.trans about)]
  unfold Leaf.problems at accepted ⊢
  simp only [alike.find?, about, List.append_eq_nil_iff, operator,
    alike.getD (Leaf.key_mem_names subject),
    alike.qualifier (by simp [Leaf.qualifiers] : "itemCountId" ∈ Leaf.qualifiers)] at accepted ⊢
  refine ⟨⟨⟨?extra, rfl⟩, accepted.1.2⟩, accepted.2⟩
  rw [List.map_eq_nil_iff, List.filter_eq_nil_iff]
  intro entry mem
  rcases plain entry mem with same | modifier
  · simp [same]
  · simp [modifier]

/-- Under `exists` and `nexists` an accepted leaf gives opposite answers exactly if it compares
something or cannot be asked at all. -/
theorem opposed_iff {path : String} (accepted : problems path (.object fields) = [])
    (alone : combinator? fields = none) (about : Subject.find? fields = some subject)
    (spelling : key ∈ subject.operatorKeys) :
    (∀ known, problems path (.object (Leaf.withOperator fields key known)) = []) ∧
    ∀ hour state,
      (evaluate hour state (.object (Leaf.withOperator fields key .absent)) =
          (evaluate hour state (.object (Leaf.withOperator fields key .present))).map (!·) ↔
        Leaf.heedsOperator fields subject = true ∨ Keyless (.object fields)) := by
  refine ⟨problems_withOperator accepted alone about spelling, fun hour state => ?_⟩
  rw [evaluate_withOperator alone about spelling, evaluate_withOperator alone about spelling,
    keyless_iff alone about]
  cases lookedUp : Leaf.requireKey fields subject with
  | error fault => exact ⟨fun _ => .inr ⟨fault, rfl⟩, fun _ => rfl⟩
  | ok =>
    cases heeds : Leaf.heedsOperator fields subject with
    | true =>
      rw [Leaf.answer_absent heeds]
      exact ⟨fun _ => .inl rfl, fun _ => rfl⟩
    | false =>
      rw [Leaf.answer_of_heedless heeds hour state .absent .present]
      constructor
      · intro same
        cases held : Leaf.answer hour state fields subject .present <;>
          simp [held, Except.map] at same
      · rintro (h | ⟨fault, h⟩)
        · cases h
        · cases h

/-! ### A lantern, with its value and without -/

/-- The flag of the lantern, with a value that `exists` does not look at. -/
def lanternValue : Fields :=
  [("flag", "lantern"), ("flagValue", .null)]

theorem lanternValue_opposed :
    problems "conditions" (.object lanternValue) = [] ∧ combinator? lanternValue = none ∧
      Subject.find? lanternValue = some .flag ∧ "flagOperator" ∈ Subject.flag.operatorKeys ∧
      evaluate 0 withLantern (.object (Leaf.withOperator lanternValue "flagOperator" .absent)) =
        (evaluate 0 withLantern
          (.object (Leaf.withOperator lanternValue "flagOperator" .present))).map (!·) := by
  have alone : combinator? lanternValue = none := rfl
  have about : Subject.find? lanternValue = some .flag := rfl
  have accepted : problems "conditions" (.object lanternValue) = [] := by
    rw [problems_of_leaf alone about]
    rfl
  have spelling : "flagOperator" ∈ Subject.flag.operatorKeys :=
    List.mem_cons_of_mem _ (List.mem_singleton.2 rfl)
  exact ⟨accepted, alone, about, spelling,
    ((opposed_iff accepted alone about spelling).2 0 withLantern).2 (.inl rfl)⟩

/-- Without a value the operator is not looked at: there is no lantern, and it is not absent. -/
theorem lantern_neither_present_nor_absent :
    problems "conditions" (.object [("flag", "lantern"), ("op", "nexists")]) = [] ∧
      evaluate 0 atNight (.object [("flag", "lantern"), ("op", "exists")]) = .ok false ∧
      evaluate 0 atNight (.object [("flag", "lantern"), ("op", "nexists")]) = .ok false := by
  refine ⟨?_, ?_, ?_⟩
  · rw [problems_of_leaf rfl rfl]
    rfl
  · rw [evaluate_object, evaluateNode_eq]
    rfl
  · rw [evaluate_object, evaluateNode_eq]
    rfl

end Condition

/-! ## Amounts and targets -/

namespace Operator

open Comparison

/-- An amount as it is compared: null where there is none. -/
def amount (value : Option Number) : Document :=
  .ofOption (value.map .number)

variable (value : Option Number) (targets : List Int)

theorem eq_holds_int (target : Int) :
    Operator.eq.holds (amount value) (.int target) true =
      value.any fun n => n.equals (.int target) := by
  cases value with
  | none => rfl
  | some n => simp [amount, holds, numeric, isNull, plain, same, Document.ofOption, Document.int,
      Document.isBool, Document.equals, Document.number?]

/-- No number is different from nothing. -/
theorem ne_holds_int (target : Int) :
    Operator.ne.holds (amount value) (.int target) true =
      value.any fun n => !n.equals (.int target) := by
  cases value with
  | none => rfl
  | some n => simp [amount, holds, numeric, isNull, plain, same, Document.ofOption, Document.int,
      Document.isBool, Document.equals, Document.number?]

theorem isIn_holds_ints :
    Operator.isIn.holds (amount value) (.list (targets.map .int)) true =
      value.any fun n => targets.any fun target => n.equals (.int target) := by
  cases value with
  | none => rfl
  | some n =>
    simp [amount, holds, membership, among, numeric, isNull, same, Document.ofOption, Document.int,
      Document.isBool, Document.equals, Document.number?, List.any_map, Function.comp_def]

/-- Nothing is among no targets. -/
theorem notIn_holds_ints :
    Operator.notIn.holds (amount value) (.list (targets.map .int)) true =
      value.all fun n => targets.all fun target => !n.equals (.int target) := by
  have opposite : Operator.notIn.holds (amount value) (.list (targets.map .int)) true =
      !Operator.isIn.holds (amount value) (.list (targets.map .int)) true := rfl
  rw [opposite, isIn_holds_ints]
  cases value with
  | none => rfl
  | some n => simp [List.not_any_eq_all_not]

end Operator

namespace Leaf

variable {fields : Fields} {subject : Subject} {place : String}

/-- The amount that a leaf is about: there is none of a stat that the player is without. -/
def measured (state : GameState) (fields : Fields) : Subject → Option Number
  | .quantity q => some (q.of state)
  | .playerStat =>
    ((target fields .playerStat).text?.bind state.player.attributes.get?).map .int
  | .itemCount => some (.int (state.countItem (fields.getD "itemCountId" .null)))
  | .relationship => some (.int (state.relationship (target fields .relationship)))
  | _ => none

/-- A target stands under the key of its subject, or under one that names no subject. -/
theorem targetKey_apart (amount : subject.targetKey? = some place) :
    (place = subject.key ∨ place ∉ Subject.all.map Subject.key) ∧
      place ∉ Condition.combinators := by
  cases subject with
  | quantity q =>
    cases amount
    exact ⟨.inl rfl, by cases q <;> simp [Quantity.key, Condition.combinators]⟩
  | itemCount =>
    cases amount
    exact ⟨.inl rfl, by simp [Condition.combinators]⟩
  | playerStat | relationship =>
    cases amount
    exact ⟨.inr (by simp [Subject.all, Quantity.all, Subject.key, Quantity.key]),
      by simp [Condition.combinators]⟩
  | _ => cases amount

theorem combinator?_put (amount : subject.targetKey? = some place) (target : Document) :
    Condition.combinator? (fields.put place target) = Condition.combinator? fields :=
  List.find?_congr fun name mem => by
    have other : name ≠ place := fun same =>
      (targetKey_apart amount).2 (same ▸ mem)
    rw [Fields.has_put, decide_eq_false other, Bool.false_or]

theorem find?_put (about : Subject.find? fields = some subject)
    (amount : subject.targetKey? = some place) (target : Document) :
    Subject.find? (fields.put place target) = some subject := by
  rw [← about]
  refine List.find?_congr fun other mem => ?_
  rw [Fields.has_put]
  by_cases here : other.key = place
  · have own : place = subject.key :=
      (targetKey_apart amount).1.resolve_right fun apart =>
        apart (here ▸ List.mem_map_of_mem mem)
    have present : fields.has place = true :=
      own ▸ List.find?_some (p := fun other : Subject => fields.has other.key) about
    rw [here, present, Bool.or_true]
  · rw [decide_eq_false here, Bool.false_or]

theorem requireKey_put (amount : subject.targetKey? = some place) (target : Document) :
    requireKey (fields.put place target) subject = requireKey fields subject := by
  unfold requireKey Leaf.target
  cases subject with
  | quantity _ | itemCount => rfl
  | playerStat | relationship =>
    cases amount
    rw [Fields.getD_put]
    rfl
  | _ => cases amount

theorem answer_put (amount : subject.targetKey? = some place) (target : Document) (hour : Nat)
    (state : GameState) (known : Operator) :
    answer hour state (fields.put place target) subject known =
      known.holds (Operator.amount (measured state fields subject)) target true := by
  unfold answer Leaf.target
  cases subject with
  | quantity q =>
    cases amount
    have own : (fields.put q.key target).getD q.key .null = target := by
      rw [Fields.getD_put, if_pos rfl]
    exact congrArg (known.holds (.number (q.of state)) · true) own
  | itemCount =>
    cases amount
    have other : ¬ "itemCountId" = "itemCount" := by decide
    simp only [Fields.getD_put, if_neg other]
    rfl
  | playerStat =>
    cases amount
    have other : ¬ Subject.playerStat.key = "value" := by decide
    simp only [Fields.getD_put, if_pos, if_neg other]
    rw [measured, Operator.amount, Option.map_map]
    rfl
  | relationship =>
    cases amount
    have other : ¬ Subject.relationship.key = "relationshipValue" := by decide
    simp only [Fields.getD_put, if_pos, if_neg other]
    rfl
  | _ => cases amount

end Leaf

namespace Condition

variable {fields : Fields} {subject : Subject} {place key : String}

/-- A leaf about an amount that compares it by an operator with a target. -/
def comparison (fields : Fields) (place key : String) (known : Operator) (target : Document) :
    Document :=
  .object (Leaf.withOperator (fields.put place target) key known)

theorem evaluate_comparison (alone : combinator? fields = none)
    (about : Subject.find? fields = some subject) (amount : subject.targetKey? = some place)
    (spelling : key ∈ subject.operatorKeys) (known : Operator) (target : Document) (hour : Nat)
    (state : GameState) :
    evaluate hour state (comparison fields place key known target) =
      (Leaf.requireKey fields subject).map fun _ =>
        known.holds (Operator.amount (Leaf.measured state fields subject)) target true := by
  rw [comparison, evaluate_withOperator ((Leaf.combinator?_put amount target).trans alone)
    (Leaf.find?_put about amount target) spelling, Leaf.requireKey_put amount,
    Leaf.answer_put amount]

/-- An amount is among targets exactly if it equals one of them.  It is among none of them exactly
if it is different from each, unless a stat is asked for that the player is without; then it is
among none of any targets and different from no target.  A leaf that cannot be asked does not
hold. -/
theorem comparisons_iff (alone : combinator? fields = none)
    (about : Subject.find? fields = some subject) (amount : subject.targetKey? = some place)
    (spelling : key ∈ subject.operatorKeys) (targets : List Int) (hour : Nat) (state : GameState) :
    (evaluate hour state (comparison fields place key .isIn (.list (targets.map .int))) = .ok true ↔
      ∃ target ∈ targets,
        evaluate hour state (comparison fields place key .eq (.int target)) = .ok true) ∧
    ((evaluate hour state (comparison fields place key .notIn (.list (targets.map .int))) =
          .ok true ↔
        ∀ target ∈ targets,
          evaluate hour state (comparison fields place key .ne (.int target)) = .ok true) ↔
      if targets = [] then ¬ Keyless (.object fields)
      else Keyless (.object fields) ∨ (Leaf.measured state fields subject).isSome = true) := by
  have noTarget : (∀ target ∈ targets, False) ↔ targets = [] :=
    List.eq_nil_iff_forall_not_mem.symm
  simp only [evaluate_comparison alone about amount spelling, keyless_iff alone about]
  cases Leaf.requireKey fields subject with
  | error fault =>
    have never (held : Bool) :
        (Except.map (fun _ => held) (.error fault : Result Unit) = .ok true) ↔ False := by
      simp [Except.map]
    simp only [never, noTarget]
    by_cases none : targets = [] <;> simp [none]
  | ok =>
    have answered (held : Bool) :
        (Except.map (fun _ => held) (.ok () : Result Unit) = .ok true) ↔ held = true := by
      simp [Except.map]
    simp only [answered, Operator.isIn_holds_ints, Operator.notIn_holds_ints,
      Operator.eq_holds_int, Operator.ne_holds_int]
    cases Leaf.measured state fields subject with
    | none =>
      simp only [Option.any_none, Option.all_none, Bool.false_eq_true, noTarget]
      by_cases none : targets = [] <;> simp [none]
    | some n => simp

/-! ### Strength that there is, and wisdom that there is not -/

def strength : Fields :=
  [("playerStat", "strength")]

theorem strength_among_none_iff :
    combinator? strength = none ∧ Subject.find? strength = some .playerStat ∧
      Subject.playerStat.targetKey? = some "value" ∧ "op" ∈ Subject.playerStat.operatorKeys ∧
      (evaluate 0 atNight
          (comparison strength "value" "op" .notIn (.list (([12, 14] : List Int).map .int))) =
          .ok true ↔
        ∀ target ∈ ([12, 14] : List Int),
          evaluate 0 atNight (comparison strength "value" "op" .ne (.int target)) = .ok true) := by
  have alone : combinator? strength = none := rfl
  have about : Subject.find? strength = some .playerStat := rfl
  have spelling : "op" ∈ Subject.playerStat.operatorKeys := List.mem_cons_self
  have known : (Leaf.measured atNight strength .playerStat).isSome = true := rfl
  exact ⟨alone, about, rfl, spelling,
    (comparisons_iff alone about rfl spelling [12, 14] 0 atNight).2.2 (.inr known)⟩

/-- The player has no wisdom: it is neither 1 nor 2 by one leaf, and not different from either by
two. -/
theorem wisdom_among_none_not_different :
    evaluate 0 atNight (.object
        [("playerStat", "wisdom"), ("value", .list [.int 1, .int 2]), ("op", "nin")]) = .ok true ∧
      evaluate 0 atNight
        (.object [("playerStat", "wisdom"), ("value", .int 1), ("op", "ne")]) = .ok false ∧
      evaluate 0 atNight
        (.object [("playerStat", "wisdom"), ("value", .int 2), ("op", "ne")]) = .ok false := by
  refine ⟨?_, ?_, ?_⟩
  · rw [evaluate_object, evaluateNode_eq]
    rfl
  · rw [evaluate_object, evaluateNode_eq]
    rfl
  · rw [evaluate_object, evaluateNode_eq]
    rfl

end Condition

end InteractiveFiction
