import InteractiveFiction.Proofs.Condition.Accepted
import InteractiveFiction.Proofs.Fields

/-!
Keys of a condition that nobody asks for.

A node is asked by one of its keys: the first of `and`, `or` and `not` that it has, or else the
first subject of a leaf (`Condition.followed?`).  Modifiers qualify a leaf; any other key beside the
one that is followed is stray.

* `Condition.not_stray_of_leaf`: checking a leaf finds all its stray keys.
* `Condition.stray_iff_of_combinator`: beside a combinator no key is looked at.
* `Condition.not_stray_iff`: so an accepted node may have stray keys beside a combinator only.
* `Condition.evaluateNode_of_stray`: they make no difference, in whatever state.
-/

set_option autoImplicit false

namespace InteractiveFiction

open Relation

namespace Condition

def combinators : List String :=
  ["and", "or", "not"]

/-- The combinator of a node: where there are several, the first in the order of `combinators`. -/
def combinator? (fields : Fields) : Option String :=
  combinators.find? fun key => Fields.has fields key

/-- The key that a node is asked by. -/
def followed? (fields : Fields) : Option String :=
  (combinator? fields).or ((Subject.find? fields).map Subject.key)

/-- A key by which some node can be asked. -/
def Known (key : String) : Prop :=
  key ∈ combinators ∨ key ∈ Subject.all.map Subject.key

/-- A key that is no modifier, and that is not known or not followed. -/
structure Stray (fields : Fields) (key : String) : Prop where
  written : Fields.has fields key = true
  plain : key ∉ modifierKeys
  unheeded : ¬ Known key ∨ followed? fields ≠ some key

variable {fields : Fields} {key : String}

theorem known_of_followed? (h : followed? fields = some key) : Known key := by
  unfold followed? at h
  rcases Option.or_eq_some_iff.1 h with combinator | ⟨-, subject⟩
  · exact .inl (List.mem_of_find?_eq_some combinator)
  · obtain ⟨subject, found, rfl⟩ := Option.map_eq_some_iff.1 subject
    exact .inr (List.mem_map_of_mem (List.mem_of_find?_eq_some found))

theorem stray_iff : Stray fields key ↔
    Fields.has fields key = true ∧ key ∉ modifierKeys ∧ followed? fields ≠ some key := by
  constructor
  · rintro ⟨written, plain, unknown | other⟩
    · exact ⟨written, plain, fun followed => unknown (known_of_followed? followed)⟩
    · exact ⟨written, plain, other⟩
  · rintro ⟨written, plain, other⟩
    exact ⟨written, plain, .inr other⟩

/-! ## Leaves -/

/-- A leaf without problems has a subject, and no key but that and modifiers. -/
theorem keys_of_leaf {path : String} (accepted : Leaf.problems path fields = []) :
    ∃ subject, Subject.find? fields = some subject ∧
      ∀ key, Fields.has fields key = true → key = subject.key ∨ key ∈ modifierKeys := by
  unfold Leaf.problems at accepted
  cases about : Subject.find? fields with
  | none =>
    rw [about] at accepted
    cases accepted
  | some subject =>
    rw [about] at accepted
    simp only [List.append_eq_nil_iff, List.map_eq_nil_iff, List.filter_eq_nil_iff] at accepted
    obtain ⟨⟨⟨extra, -⟩, -⟩, -⟩ := accepted
    refine ⟨subject, rfl, fun key written => ?_⟩
    obtain ⟨value, mem⟩ := Fields.mem_of_has written
    have own := extra _ mem
    by_cases same : key = subject.key
    · exact .inl same
    · exact .inr (by simpa [same] using own)

theorem lookup_of_alone (alone : combinator? fields = none) {combinator : String}
    (mem : combinator ∈ combinators) : List.lookup combinator fields = none :=
  Fields.lookup_of_not_has (List.find?_eq_none.1 alone combinator mem)

theorem shape_of_alone (alone : combinator? fields = none) :
    shape (.object fields) = if fields.isEmpty then .vacuous else .leaf fields := by
  unfold shape
  simp only [lookup_of_alone alone (show "and" ∈ combinators by decide),
    lookup_of_alone alone (show "or" ∈ combinators by decide),
    lookup_of_alone alone (show "not" ∈ combinators by decide)]

/-- A node without a combinator and without problems has no stray key. -/
theorem not_stray_of_leaf {path : String} (accepted : problems path (.object fields) = [])
    (alone : combinator? fields = none) : ¬ Stray fields key := by
  intro stray
  obtain ⟨written, plain, unfollowed⟩ := stray_iff.1 stray
  have shaped := shape_of_accepted accepted
  rw [shape_of_alone alone] at shaped
  cases empty : fields.isEmpty with
  | true =>
    rw [List.isEmpty_iff] at empty
    subst empty
    cases written
  | false =>
    rw [empty] at shaped
    obtain ⟨path, leaf⟩ := shaped
    obtain ⟨subject, about, keys⟩ := keys_of_leaf leaf
    rcases keys key written with rfl | modifier
    · refine unfollowed ?_
      rw [followed?, alone, about]
      rfl
    · exact plain modifier

/-! ## Combinators -/

/-- Beside a combinator every key is stray that is no modifier. -/
theorem stray_iff_of_combinator {combinator : String}
    (has : combinator? fields = some combinator) :
    Stray fields key ↔
      Fields.has fields key = true ∧ key ≠ combinator ∧ key ∉ modifierKeys := by
  have followed : followed? fields = some combinator := by
    unfold followed?
    rw [has]
    rfl
  rw [stray_iff, followed]
  constructor
  · rintro ⟨written, plain, other⟩
    exact ⟨written, fun same => other (congrArg some same.symm), plain⟩
  · rintro ⟨written, other, plain⟩
    exact ⟨written, plain, fun same => other (Option.some.inj same).symm⟩

/-- A key that is not its combinator makes no difference to the shape of a node. -/
theorem shape_without {combinator : String} (has : combinator? fields = some combinator)
    (other : key ≠ combinator) :
    shape (.object (Fields.without fields key)) = shape (.object fields) := by
  have kept {name : String} (different : name ≠ key) :
      List.lookup name (Fields.without fields key) = List.lookup name fields := by
    rw [Fields.lookup_without, if_neg different]
  have absent {name : String} (missing : List.lookup name fields = none) :
      List.lookup name (Fields.without fields key) = none := by
    rw [Fields.lookup_without, missing, ite_self]
  unfold combinator? combinators Fields.has at has
  unfold shape
  -- The combinators before the one that is followed are absent with the key and without it.
  cases first : List.lookup "and" fields with
  | some d =>
    simp only [first, List.find?_cons, Option.isSome_some, Option.some.injEq] at has
    subst has
    simp only [kept (Ne.symm other), first]
    cases d <;> rfl
  | none =>
    simp only [absent first, first]
    cases second : List.lookup "or" fields with
    | some d =>
      simp only [first, second, List.find?_cons, Option.isSome_some, Option.isSome_none,
        Option.some.injEq] at has
      subst has
      simp only [kept (Ne.symm other), second]
      cases d <;> rfl
    | none =>
      simp only [absent second]
      cases third : List.lookup "not" fields with
      | some d =>
        simp only [first, second, third, List.find?_cons, Option.isSome_some, Option.isSome_none,
          Option.some.injEq] at has
        subst has
        simp only [kept (Ne.symm other), third]
        cases d <;> rfl
      | none => simp [first, second, third] at has

theorem evaluateNode_without {combinator : String} (has : combinator? fields = some combinator)
    (other : key ≠ combinator) (hour : Nat) (state : GameState) :
    evaluateNode hour state (.object (Fields.without fields key)) =
      evaluateNode hour state (.object fields) := by
  rw [evaluateNode_eq, evaluateNode_eq, shape_without has other]

/-! ## Accepted nodes -/

/-- An accepted node has no stray key exactly if it has no combinator beside another key that is no
modifier. -/
theorem not_stray_iff {path : String} (accepted : problems path (.object fields) = []) :
    (∀ key, ¬ Stray fields key) ↔
      ∀ combinator ∈ combinators, Fields.has fields combinator = true →
        ∀ key, Fields.has fields key = true → key = combinator ∨ key ∈ modifierKeys := by
  constructor
  · intro none combinator mem written key other
    have plain : combinator ∉ modifierKeys := by
      have apart : ∀ combinator ∈ combinators, combinator ∉ modifierKeys := by decide +kernel
      exact apart combinator mem
    cases has : combinator? fields with
    | none => exact absurd written (List.find?_eq_none.1 has combinator mem)
    | some first =>
      have alone (key : String) (written : Fields.has fields key = true)
          (plain : key ∉ modifierKeys) : key = first :=
        Decidable.not_not.1 fun different =>
          none key ((stray_iff_of_combinator has).2 ⟨written, different, plain⟩)
      by_cases modifier : key ∈ modifierKeys
      · exact .inr modifier
      · exact .inl ((alone key other modifier).trans (alone combinator written plain).symm)
  · intro only key stray
    cases has : combinator? fields with
    | none => exact not_stray_of_leaf accepted has stray
    | some combinator =>
      obtain ⟨written, different, plain⟩ := (stray_iff_of_combinator has).1 stray
      have mem := List.mem_of_find?_eq_some has
      have own : Fields.has fields combinator = true := List.find?_some has
      rcases only combinator mem own key written with same | modifier
      · exact different same
      · exact plain modifier

/-- In no state does a stray key of an accepted node make a difference. -/
theorem evaluateNode_of_stray {path : String} (accepted : problems path (.object fields) = [])
    (stray : Stray fields key) (hour : Nat) (state : GameState) :
    evaluateNode hour state (.object (Fields.without fields key)) =
      evaluateNode hour state (.object fields) := by
  cases has : combinator? fields with
  | none => exact absurd stray (not_stray_of_leaf accepted has)
  | some combinator =>
    exact evaluateNode_without has ((stray_iff_of_combinator has).1 stray).2.1 hour state

/-! ## Parts of a condition -/

/-- A member of a node, whether or not it is asked. -/
inductive Member : Document → Document → Prop
  | conjunct {node member : Document} {members : List Document}
      (written : shape node = .all members) (mem : member ∈ members) : Member node member
  | disjunct {node member : Document} {members : List Document}
      (written : shape node = .any members) (mem : member ∈ members) : Member node member
  | negated {node : Document} {inner : Fields} (written : shape node = .negation inner) :
      Member node (.object inner)

/-- The parts of what is accepted are accepted with it, asked or not. -/
theorem accepted_within {condition part : Document} (within : ReflTransGen Member condition part)
    (accepted : ∃ path, problems path condition = []) : ∃ path, problems path part = [] := by
  induction within using ReflTransGen.head_induction_on with
  | refl => exact accepted
  | head member _ ih =>
    obtain ⟨path, accepted⟩ := accepted
    have shaped := shape_of_accepted accepted
    apply ih
    cases member with
    | conjunct written mem | disjunct written mem =>
      rw [written] at shaped
      exact shaped _ mem
    | negated written =>
      rw [written] at shaped
      exact shaped

end Condition

end InteractiveFiction
