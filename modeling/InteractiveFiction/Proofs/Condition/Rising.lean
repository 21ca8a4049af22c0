import InteractiveFiction.Proofs.Condition.Asking
import InteractiveFiction.Proofs.Number.Order

/-!
Conditions that go on holding while a game gains.

A condition of `and`, `or` and lists whose leaves ask for at least so much of something, or whether
something is there, never fails, and holds in every state that has no less than one it holds in.

* `GameState.AtMost`: of nothing that such leaves ask for does the first state have more.
* `Leaf.Rising`, `Condition.Rising`: such leaves and conditions.
* `Condition.rises_of_rising`: the step by which the answers of members make those of nodes.
* `Condition.holds_of_atMost`: what holds in a state holds in those that have no less.
-/

set_option autoImplicit false

namespace InteractiveFiction

/-! ## States that have no less -/

/-- The second state has at least as much as the first of every number, and every item, scene,
achievement and choice of it. -/
structure GameState.AtMost (state richer : GameState) : Prop where
  quantities (quantity : Quantity) : (quantity.of state).le (quantity.of richer) = true
  attributes {name : String} {value : Int}
    (found : state.player.attributes.get? name = some value) :
    ∃ more, richer.player.attributes.get? name = some more ∧ value ≤ more
  counts (id : String) : state.countItem (.text id) ≤ richer.countItem (.text id)
  relationships (character : String) :
    state.relationship (.text character) ≤ richer.relationship (.text character)
  items : state.inventory.map Item.id ⊆ richer.inventory.map Item.id
  scenes : state.progress.scenesVisited ⊆ richer.progress.scenesVisited
  achievements : state.progress.achievementsUnlocked ⊆ richer.progress.achievementsUnlocked
  choices : state.progress.choicesMade.map ChoiceRecord.choice ⊆
    richer.progress.choicesMade.map ChoiceRecord.choice

/-- No item has an id that is not a text. -/
theorem GameState.countItem_of_unnamed {state : GameState} {id : Document}
    (unnamed : id.text? = none) : state.countItem id = 0 := by
  have none (item : Item) : ¬ (Document.text item.id == id) = true := by
    rw [beq_iff_eq]
    rintro rfl
    cases unnamed
  have found : (state.inventory.filter fun item => .text item.id == id) = [] :=
    List.filter_eq_nil_iff.2 fun item _ => none item
  rw [countItem, found]
  rfl

namespace GameState.AtMost

variable {state richer : GameState} (atMost : state.AtMost richer)

include atMost

theorem countItem_le (id : Document) : state.countItem id ≤ richer.countItem id := by
  cases id with
  | text name => exact atMost.counts name
  | _ => exact Int.le_of_eq ((countItem_of_unnamed rfl).trans (countItem_of_unnamed rfl).symm)

/-- Nothing is known of a character without a name. -/
theorem relationship_le (character : Document) :
    state.relationship character ≤ richer.relationship character := by
  cases character with
  | text name => exact atMost.relationships name
  | _ => simp [relationship, Document.text?]

theorem findItem?_isSome {id : Document} (found : (state.findItem? id).isSome = true) :
    (richer.findItem? id).isSome = true := by
  rw [findItem?, List.find?_isSome] at found ⊢
  obtain ⟨item, mem, same⟩ := found
  obtain ⟨other, mem, alike⟩ := List.mem_map.1 (atMost.items (List.mem_map_of_mem mem))
  exact ⟨other, mem, by rw [alike]; exact same⟩

theorem hasMadeChoice {choice : Document} (made : state.hasMadeChoice choice = true) :
    richer.hasMadeChoice choice = true := by
  rw [GameState.hasMadeChoice, List.any_eq_true] at made ⊢
  obtain ⟨record, mem, same⟩ := made
  obtain ⟨other, mem, alike⟩ := List.mem_map.1 (atMost.choices (List.mem_map_of_mem mem))
  exact ⟨other, mem, by rw [alike]; exact same⟩

end GameState.AtMost

theorem any_of_subset {α : Type} {p : α → Bool} {few many : List α} (subset : few ⊆ many)
    (any : few.any p = true) : many.any p = true := by
  rw [List.any_eq_true] at any ⊢
  obtain ⟨x, mem, holds⟩ := any
  exact ⟨x, subset mem, holds⟩

/-! ## At least so much -/

namespace Operator

open Comparison

/-- A number is at least a target that is read as a number not above it. -/
theorem gte_holds_iff {n : Number} {target : Document} :
    Operator.gte.holds (.number n) target true = true ↔
      ∃ limit, numeric target = .number limit ∧ limit.le n = true := by
  have order (limit : Number) : ordered (.number n) (.number limit) (· != .lt) = true ↔
      limit.le n = true := by
    have swapped : limit.compare? n = (n.compare? limit).map Ordering.swap :=
      Binary.compare?_swap n.toBinary limit.toBinary
    rw [Number.le_iff, swapped]
    simp only [ordered, Document.isBool, Document.order?, Document.number?, Option.bind_some]
    cases n.compare? limit with
    | none => simp
    | some order => cases order <;> simp
  cases target with
  | number limit => simpa [holds, numeric, plain, isNull] using order limit
  | text s =>
    cases read : readFloat? s with
    | some x => simpa [holds, numeric, plain, isNull, read, Document.float] using order (.float x)
    | none => simp [holds, numeric, isNull, read]
  | null | bool _ | list _ | object _ => simp [holds, numeric, isNull]

theorem gte_holds_of_le {a b : Number} (le : a.le b = true) {target : Document}
    (holds : Operator.gte.holds (.number a) target true = true) :
    Operator.gte.holds (.number b) target true = true := by
  obtain ⟨limit, read, atMost⟩ := gte_holds_iff.1 holds
  exact gte_holds_iff.2 ⟨limit, read, Number.le_trans atMost le⟩

end Operator

/-! ## Leaves -/

/-- Whether a leaf about the subject asks for some amount, or whether something is there. -/
def Subject.isGain : Subject → Bool
  | .quantity _ | .playerStat | .itemCount | .relationship => true
  | .hasItem | .visitedScene | .hasAchievement | .madeChoice => true
  | .flag | .notVisitedScene | .timeOfDay => false

namespace Leaf

/-- A leaf that can be asked, and that compares amounts, if it does, by their default operator. -/
structure Rising (fields : Fields) (subject : Subject) (known : Operator) : Prop where
  about : Subject.find? fields = some subject
  gain : subject.isGain = true
  written : operator fields subject = .ok known
  atLeast : subject.defaultOperator = .gte → known = .gte
  keyed : requireKey fields subject = .ok ()

variable {fields : Fields} {subject : Subject} {known : Operator}

theorem Rising.evaluate_eq (rising : Rising fields subject known) (hour : Nat)
    (state : GameState) :
    evaluate hour state fields = .ok (answer hour state fields subject known) := by
  unfold evaluate
  rw [rising.about]
  simp only [rising.written, rising.keyed, bind, Except.bind]
  rfl

theorem Rising.answer_of_atMost (rising : Rising fields subject known) {hour later : Nat}
    {state richer : GameState} (atMost : state.AtMost richer)
    (held : answer hour state fields subject known = true) :
    answer later richer fields subject known = true := by
  have gain := rising.gain
  have atLeast := rising.atLeast
  cases subject with
  | quantity q =>
    obtain rfl := atLeast rfl
    exact Operator.gte_holds_of_le (atMost.quantities q) held
  | playerStat =>
    obtain rfl := atLeast rfl
    unfold answer at held ⊢
    cases found : (target fields .playerStat).text?.bind state.player.attributes.get? with
    | none => simp [found, Document.ofOption, Operator.holds, Comparison.numeric,
        Comparison.isNull] at held
    | some value =>
      simp only [found, Option.map_some, Document.ofOption] at held
      obtain ⟨name, named, stat⟩ := Option.bind_eq_some_iff.1 found
      obtain ⟨more, stat, le⟩ := atMost.attributes stat
      simp only [named, Option.bind_some, stat, Option.map_some, Document.ofOption]
      exact Operator.gte_holds_of_le (Number.int_le_int.2 le) held
  | itemCount =>
    obtain rfl := atLeast rfl
    exact Operator.gte_holds_of_le (Number.int_le_int.2 (atMost.countItem_le _)) held
  | relationship =>
    obtain rfl := atLeast rfl
    exact Operator.gte_holds_of_le (Number.int_le_int.2 (atMost.relationship_le _)) held
  | hasItem => exact atMost.findItem?_isSome held
  | visitedScene => exact any_of_subset atMost.scenes held
  | hasAchievement => exact any_of_subset atMost.achievements held
  | madeChoice => exact atMost.hasMadeChoice held
  | flag | notVisitedScene | timeOfDay => cases gain

end Leaf

/-! ## Conditions -/

namespace Condition

/-- A condition of `and`, `or` and lists over rising leaves. -/
inductive Rising : Document → Prop
  | all {node : Document} {members : List Document} (written : shape node = .all members)
      (each : ∀ member ∈ members, Rising member) : Rising node
  | any {node : Document} {members : List Document} (written : shape node = .any members)
      (each : ∀ member ∈ members, Rising member) : Rising node
  | vacuous {node : Document} (written : shape node = .vacuous) : Rising node
  | leaf {node : Document} {fields : Fields} {subject : Subject} {known : Operator}
      (written : shape node = .leaf fields) (rising : Leaf.Rising fields subject known) :
      Rising node

/-- Two answers, the second of which holds if the first does. -/
def Rises (first second : Result Bool) : Prop :=
  ∃ held holds, first = .ok held ∧ second = .ok holds ∧ (held = true → holds = true)

variable {hour later : Nat} {state richer : GameState}

/-- Members whose answers rise make a node whose answer rises, whichever of the states is the first
to decide. -/
theorem rises_askUntil {decisive : Bool} {members : List Document}
    (each : ∀ member ∈ members,
      Rises (evaluateNode hour state member) (evaluateNode later richer member)) :
    Rises (askUntil hour state decisive members) (askUntil later richer decisive members) := by
  induction members with
  | nil => exact ⟨!decisive, !decisive, rfl, rfl, id⟩
  | cons first rest ih =>
    obtain ⟨own, others⟩ := List.forall_mem_cons.1 each
    obtain ⟨held, holds, answered, answers, rises⟩ := own
    obtain ⟨heldAfter, holdsAfter, before, after, risesAfter⟩ := ih others
    rw [askUntil, askUntil, answered, answers]
    simp only [bind, Except.bind, pure, Except.pure, before, after]
    cases held with
    | true =>
      obtain rfl := rises rfl
      cases decisive with
      | true => exact ⟨true, true, rfl, rfl, id⟩
      | false => exact ⟨heldAfter, holdsAfter, rfl, rfl, risesAfter⟩
    | false =>
      cases decisive <;> cases holds
      case false.false => exact ⟨false, false, rfl, rfl, id⟩
      case false.true =>
        exact ⟨false, holdsAfter, rfl, rfl, fun held => absurd held Bool.false_ne_true⟩
      case true.false => exact ⟨heldAfter, holdsAfter, rfl, rfl, risesAfter⟩
      case true.true => exact ⟨heldAfter, true, rfl, rfl, fun _ => rfl⟩

theorem rises_of_rising {node : Document} (rising : Rising node) (atMost : state.AtMost richer) :
    Rises (evaluateNode hour state node) (evaluateNode later richer node) := by
  induction rising with
  | all written each ih =>
    rw [evaluateNode_eq, evaluateNode_eq, written]
    exact rises_askUntil ih
  | any written each ih =>
    rw [evaluateNode_eq, evaluateNode_eq, written]
    exact rises_askUntil ih
  | vacuous written =>
    rw [evaluateNode_eq, evaluateNode_eq, written]
    exact ⟨true, true, rfl, rfl, id⟩
  | leaf written rising =>
    rw [evaluateNode_eq, evaluateNode_eq, written]
    exact ⟨_, _, rising.evaluate_eq hour state, rising.evaluate_eq later richer,
      rising.answer_of_atMost atMost⟩

/-- A rising condition that holds in a state holds, at whatever hour, in every state that has no
less. -/
theorem holds_of_atMost {condition : Document} (rising : Rising condition)
    (atMost : state.AtMost richer) (held : evaluate hour state condition = .ok true) :
    evaluate later richer condition = .ok true := by
  unfold evaluate at held ⊢
  split
  · rename_i truthy
    rw [if_pos truthy] at held
    have asked : Rises (evaluateNode hour state condition) (evaluateNode later richer condition) :=
      rises_of_rising rising atMost
    obtain ⟨before, after, answered, answers, rises⟩ := asked
    rw [answered] at held
    cases held
    rw [answers, rises rfl]
  · rfl

/-! ### Herbs at the gate -/

/-- Five herbs in two bundles, and nobody knows the player. -/
def gathering : GameState :=
  { GameState.starting 0 "gathering" "tale" "gate" "Ada" {} with
    inventory := [{ id := "herb", name := "Herb", quantity := 2 },
      { id := "herb", name := "Herb", quantity := 3 }] }

def welcomed : GameState :=
  { gathering with
    player := { gathering.player with level := 4 }
    inventory := { id := "herb", name := "Herb", quantity := 1 } :: gathering.inventory
    relationships := .ofEntries [("keeper", 30)]
    progress := { gathering.progress with scenesVisited := ["garden", "gate"] } }

def fiveHerbs : Fields :=
  [("itemCount", .int 5), ("itemCountId", "herb")]

def someWisdom : Fields :=
  [("playerStat", "wisdom"), ("value", .int 0)]

def noQuarrel : Fields :=
  [("relationship", "keeper")]

/-- Five herbs, and wisdom or a keeper who does not mind. -/
def admission : Document :=
  .list [.object fiveHerbs, .object [("or", .list [.object someWisdom, .object noQuarrel])]]

theorem rising_admission : Rising admission := by
  have herbs : Leaf.Rising fiveHerbs .itemCount .gte := ⟨rfl, rfl, rfl, fun _ => rfl, rfl⟩
  have wisdom : Leaf.Rising someWisdom .playerStat .gte := ⟨rfl, rfl, rfl, fun _ => rfl, rfl⟩
  have quarrel : Leaf.Rising noQuarrel .relationship .gte := ⟨rfl, rfl, rfl, fun _ => rfl, rfl⟩
  have either : Rising (.object [("or", .list [.object someWisdom, .object noQuarrel])]) :=
    .any rfl (List.forall_mem_cons.2
      ⟨.leaf rfl wisdom, List.forall_mem_singleton.2 (.leaf rfl quarrel)⟩)
  exact .all rfl (List.forall_mem_cons.2 ⟨.leaf rfl herbs, List.forall_mem_singleton.2 either⟩)

theorem gathering_atMost_welcomed : gathering.AtMost welcomed where
  quantities quantity := by
    cases quantity with
    | level => exact Number.int_le_int.2 (show (1 : Int) ≤ 4 by omega)
    | _ => exact Number.int_le_int.2 (Int.le_refl _)
  attributes found := ⟨_, found, Int.le_refl _⟩
  counts id := by
    by_cases herb : id = "herb"
    · subst herb
      exact (show (5 : Int) ≤ 6 by omega)
    · simp [GameState.countItem, welcomed, gathering, Ne.symm herb]
  relationships character := by
    by_cases keeper : character = "keeper"
    · subst keeper
      exact (show (0 : Int) ≤ 30 by omega)
    · have differs : (character == "keeper") = false := beq_false_of_ne keeper
      have unknown : welcomed.relationships.get? character = none := by
        change List.lookup character [("keeper", 30)] = none
        rw [List.lookup_cons, differs]
        rfl
      change (0 : Int) ≤ (welcomed.relationships.get? character).getD 0
      rw [unknown]
      exact Int.le_refl 0
  items := List.subset_cons_self _ _
  scenes := List.subset_cons_self _ _
  achievements := List.Subset.refl _
  choices := List.Subset.refl _

/-- The first player has no wisdom at all, and passes because the keeper does not know her. -/
theorem admission_holds : evaluate 0 gathering admission = .ok true := by
  have herbs : evaluateNode 0 gathering (.object fiveHerbs) = .ok true := by
    rw [evaluateNode_eq]
    rfl
  have wisdom : evaluateNode 0 gathering (.object someWisdom) = .ok false := by
    rw [evaluateNode_eq]
    rfl
  have quarrel : evaluateNode 0 gathering (.object noQuarrel) = .ok true := by
    rw [evaluateNode_eq]
    rfl
  have either : evaluateNode 0 gathering
      (.object [("or", .list [.object someWisdom, .object noQuarrel])]) = .ok true := by
    rw [evaluateNode_eq]
    change askUntil 0 gathering true [.object someWisdom, .object noQuarrel] = .ok true
    rw [askUntil, wisdom, askUntil, quarrel]
    rfl
  rw [admission, evaluate_list, askUntil, herbs, askUntil, either]
  rfl

theorem admission_stays :
    Rising admission ∧ gathering.AtMost welcomed ∧ evaluate 0 gathering admission = .ok true ∧
      evaluate 12 welcomed admission = .ok true :=
  ⟨rising_admission, gathering_atMost_welcomed, admission_holds,
    holds_of_atMost rising_admission gathering_atMost_welcomed admission_holds⟩

end Condition

end InteractiveFiction
