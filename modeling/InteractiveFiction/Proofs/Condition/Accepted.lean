import InteractiveFiction.Condition.Validation
import InteractiveFiction.Proofs.Condition.Asking

/-!
Conditions without problems, when they are asked.

Checking a condition looks at every part of it and lets a null pass anywhere, since nothing is
asked of an absent condition.  Asking knows only the condition as a whole to be absent: a null
among its members is no condition.  So an accepted condition has an answer exactly in the states
in which the asking comes to no null, as long as its leaves look up what can be a key.
-/

set_option autoImplicit false

namespace InteractiveFiction

open Relation

/-! ## Accepted leaves -/

namespace Leaf

theorem operator_of_accepted {path : String} {fields : Fields} {subject : Subject}
    (accepted : problems path fields = []) (about : Subject.find? fields = some subject) :
    ∃ known, operator fields subject = .ok known := by
  unfold operator
  cases known : Operator.ofDocument? (operatorDocument fields subject) with
  | some operator =>
    simp only [known]
    exact ⟨operator, rfl⟩
  | none =>
    unfold problems at accepted
    simp [about, known] at accepted

/-- An accepted leaf has no flaw but that it looks up what is no key. -/
theorem flaw?_of_accepted {path : String} {fields : Fields} (accepted : problems path fields = [])
    {fault : Fault} :
    flaw? fields = some fault ↔
      ∃ subject, Subject.find? fields = some subject ∧ subject.looksUp = true ∧
        (target fields subject).isKey = false ∧
        fault = .mistyped (.notAKey (target fields subject).kind) := by
  unfold flaw?
  cases about : Subject.find? fields with
  | none => simp
  | some subject =>
    obtain ⟨known, hknown⟩ := operator_of_accepted accepted about
    by_cases keyless : subject.looksUp && !(target fields subject).isKey
    · have refused : requireKey fields subject =
          .error (.mistyped (.notAKey (target fields subject).kind)) := by
        unfold requireKey
        simp only [keyless, if_true]
        rfl
      simp only [hknown, refused]
      simp only [Bool.and_eq_true, Bool.not_eq_true'] at keyless
      constructor
      · intro h
        cases h
        exact ⟨subject, rfl, keyless.1, keyless.2, rfl⟩
      · rintro ⟨other, h, -, -, rfl⟩
        cases h
        rfl
    · have granted : requireKey fields subject = .ok () := by
        unfold requireKey
        simp only [keyless]
        rfl
      simp only [hknown, granted]
      simp_all

end Leaf

namespace Condition

/-! ## Accepted nodes -/

theorem members_of_accepted {path : String} {index : Nat} {members : List Document}
    (accepted : problemsOfMembers path index members = []) :
    ∀ member ∈ members, ∃ path, problems path member = [] := by
  induction members generalizing index with
  | nil => simp
  | cons first rest ih =>
    rw [problemsOfMembers, List.append_eq_nil_iff] at accepted
    intro member mem
    obtain rfl | mem := List.mem_cons.1 mem
    · exact ⟨_, accepted.1⟩
    · exact ih accepted.2 member mem

/-- What is accepted has accepted members and is well formed itself, unless it is null. -/
theorem shape_of_accepted {path : String} {node : Document} (accepted : problems path node = []) :
    match shape node with
    | .all members | .any members => ∀ member ∈ members, ∃ path, problems path member = []
    | .negation inner => ∃ path, problems path (.object inner) = []
    | .vacuous => True
    | .leaf fields => ∃ path, Leaf.problems path fields = []
    | .broken _ => node = .null := by
  cases node with
  | null => rfl
  | list members =>
    rw [problems] at accepted
    exact members_of_accepted accepted
  | object fields =>
    rw [problems] at accepted
    unfold shape
    split at accepted
    · rename_i empty
      rw [List.isEmpty_iff] at empty
      subst empty
      trivial
    · split at accepted
      · simp only [*]
        exact members_of_accepted accepted
      · cases accepted
      · split at accepted
        · simp only [*]
          exact members_of_accepted accepted
        · cases accepted
        · split at accepted
          · simp only [*]
            exact ⟨_, accepted⟩
          · cases accepted
          · simp only [*]
            exact ⟨_, accepted⟩
  | bool b => simp [problems] at accepted
  | number n => simp [problems] at accepted
  | text s => simp [problems] at accepted

/-- Every part that asking comes to is accepted with the whole. -/
theorem accepted_of_reached {hour : Nat} {state : GameState} {node part : Document}
    (reached : ReflTransGen (Visits hour state) node part)
    (accepted : ∃ path, problems path node = []) : ∃ path, problems path part = [] := by
  induction reached using ReflTransGen.head_induction_on with
  | refl => exact accepted
  | head visits _ ih =>
    obtain ⟨path, accepted⟩ := accepted
    have shaped := shape_of_accepted accepted
    apply ih
    cases visits with
    | conjunct earlier member later written =>
      rw [written] at shaped
      exact shaped _ (by simp)
    | disjunct earlier member later written =>
      rw [written] at shaped
      exact shaped _ (by simp)
    | negated inner written =>
      rw [written] at shaped
      exact shaped

/-! ## Answers -/

/-- Asking a condition comes to ask one of its parts; nothing is asked of what is empty. -/
def Asks (hour : Nat) (state : GameState) (condition part : Document) : Prop :=
  condition.isTruthy = true ∧ ReflTransGen (Visits hour state) condition part

/-- A leaf that looks something up by a list or an object. -/
def Keyless (part : Document) : Prop :=
  ∃ fields subject, shape part = .leaf fields ∧ Subject.find? fields = some subject ∧
    subject.looksUp = true ∧ (Leaf.target fields subject).isKey = false

theorem evaluate_error_iff {hour : Nat} {state : GameState} {condition : Document}
    {fault : Fault} :
    evaluate hour state condition = .error fault ↔
      ∃ part, Asks hour state condition part ∧ flaw? part = some fault := by
  unfold evaluate Asks
  split
  · rename_i asked
    simp only [asked, true_and]
    exact evaluateNode_error_iff
  · rename_i absent
    simp [absent, pure, Except.pure]

theorem flaw?_null : flaw? .null = some (.content (.conditionNotObject "NoneType")) :=
  rfl

theorem flaw?_of_keyless {path : String} {part : Document} (accepted : problems path part = [])
    (keyless : Keyless part) : ∃ kind, flaw? part = some (.mistyped (.notAKey kind)) := by
  obtain ⟨fields, subject, written, about, looksUp, noKey⟩ := keyless
  have leaf := shape_of_accepted accepted
  rw [written] at leaf
  obtain ⟨path, leaf⟩ := leaf
  refine ⟨(Leaf.target fields subject).kind, ?_⟩
  simp only [flaw?, written]
  exact (Leaf.flaw?_of_accepted leaf).2 ⟨subject, about, looksUp, noKey, rfl⟩

theorem null_or_keyless_of_flaw? {path : String} {part : Document} {fault : Fault}
    (accepted : problems path part = []) (flawed : flaw? part = some fault) :
    part = .null ∨ Keyless part ∧ fault.isOfContent = false := by
  have shaped := shape_of_accepted accepted
  unfold flaw? at flawed
  cases written : shape part with
  | all members => simp [written] at flawed
  | any members => simp [written] at flawed
  | negation inner => simp [written] at flawed
  | vacuous => simp [written] at flawed
  | leaf fields =>
    simp only [written] at shaped flawed
    obtain ⟨path, leaf⟩ := shaped
    obtain ⟨subject, about, looksUp, noKey, rfl⟩ := (Leaf.flaw?_of_accepted leaf).1 flawed
    exact .inr ⟨⟨fields, subject, written, about, looksUp, noKey⟩, rfl⟩
  | broken other =>
    simp only [written] at shaped
    exact .inl shaped

theorem answer_of_clear {path : String} {condition : Document}
    (accepted : problems path condition = []) {hour : Nat} {state : GameState}
    (clear : ∀ part, Asks hour state condition part → part ≠ .null ∧ ¬ Keyless part) :
    ∃ answer, evaluate hour state condition = .ok answer := by
  cases answered : evaluate hour state condition with
  | ok answer => exact ⟨answer, rfl⟩
  | error fault =>
    obtain ⟨part, asked, flawed⟩ := evaluate_error_iff.1 answered
    obtain ⟨path, accepted⟩ := accepted_of_reached asked.2 ⟨path, accepted⟩
    obtain null | ⟨keyless, -⟩ := null_or_keyless_of_flaw? accepted flawed
    · exact absurd null (clear part asked).1
    · exact absurd keyless (clear part asked).2

/-- An accepted condition has an answer exactly if asking it comes to no null and to no leaf that
looks up what is no key, and it is refused as malformed exactly if asking comes to a null. -/
theorem accepted_answers_iff {path : String} {condition : Document}
    (accepted : problems path condition = []) (hour : Nat) (state : GameState) :
    ((∃ answer, evaluate hour state condition = .ok answer) ↔
      ∀ part, Asks hour state condition part → part ≠ .null ∧ ¬ Keyless part) ∧
    ((∃ fault, evaluate hour state condition = .error fault ∧ fault.isOfContent = true) ↔
      Asks hour state condition .null) := by
  have whole {part : Document} (asked : Asks hour state condition part) :
      ∃ path, problems path part = [] :=
    accepted_of_reached asked.2 ⟨path, accepted⟩
  have failing {part : Document} {fault : Fault} (asked : Asks hour state condition part)
      (flawed : flaw? part = some fault) : evaluate hour state condition = .error fault :=
    evaluate_error_iff.2 ⟨part, asked, flawed⟩
  refine ⟨⟨?sound, ?complete⟩, ⟨?nulls, ?refused⟩⟩
  case sound =>
    rintro ⟨answer, answered⟩ part asked
    constructor
    · rintro rfl
      rw [failing asked flaw?_null] at answered
      cases answered
    · intro keyless
      obtain ⟨path, accepted⟩ := whole asked
      obtain ⟨kind, flawed⟩ := flaw?_of_keyless accepted keyless
      rw [failing asked flawed] at answered
      cases answered
  case complete =>
    intro clear
    exact answer_of_clear accepted clear
  case nulls =>
    rintro ⟨fault, failed, ofContent⟩
    obtain ⟨part, asked, flawed⟩ := evaluate_error_iff.1 failed
    obtain ⟨path, accepted⟩ := whole asked
    obtain rfl | ⟨-, other⟩ := null_or_keyless_of_flaw? accepted flawed
    · exact asked
    · rw [other] at ofContent
      cases ofContent
  case refused =>
    intro asked
    exact ⟨_, failing asked flaw?_null, rfl⟩

/-! ## A null behind a lantern -/

def atNight : GameState :=
  .starting 0 "night" "tale" "gate" "Ada" {}

def withLantern : GameState :=
  { atNight with flags := .ofEntries [("lantern", .bool true)] }

/-- Who has the lantern passes; for others the null is asked. -/
def lit : Document :=
  .object [("or", .list [.object [("flag", "lantern")], .null])]

theorem lit_answered_with_lantern_only :
    problems "conditions" lit = [] ∧
      evaluate 0 withLantern lit = .ok true ∧
      ∃ fault, evaluate 0 atNight lit = .error fault ∧ fault.isOfContent = true := by
  have accepted : problems "conditions" lit = [] := by decide +kernel
  have held : evaluateNode 0 withLantern (.object [("flag", "lantern")]) = .ok true := by
    rw [evaluateNode_eq]
    rfl
  have failed : evaluateNode 0 atNight (.object [("flag", "lantern")]) = .ok false := by
    rw [evaluateNode_eq]
    rfl
  refine ⟨accepted, ?_, ?_⟩
  · have members : shape lit = .any [.object [("flag", "lantern")], .null] := rfl
    rw [evaluate_of_truthy rfl, evaluateNode_eq, members]
    simp only [askUntil, held]
    rfl
  · have asked : Asks 0 atNight lit .null := by
      refine ⟨rfl, .single (.disjunct [.object [("flag", "lantern")]] .null [] rfl ?_)⟩
      simpa [Undecided] using failed
    exact (accepted_answers_iff accepted 0 atNight).2.2 asked

/-- Nothing is wrong with this condition, and it is refused in every state. -/
theorem null_conjunct_refused :
    problems "conditions" (.object [("and", .list [.null])]) = [] ∧
      ∀ hour state, evaluate hour state (.object [("and", .list [.null])]) =
        .error (.content (.conditionNotObject "NoneType")) := by
  refine ⟨by decide +kernel, fun hour state => evaluate_error_iff.2 ⟨.null, ?_, rfl⟩⟩
  exact ⟨rfl, .single (.conjunct [] .null [] rfl (by simp [Undecided]))⟩

end Condition

end InteractiveFiction
