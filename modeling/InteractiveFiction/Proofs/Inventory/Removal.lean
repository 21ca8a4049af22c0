import InteractiveFiction.Proofs.Inventory.Ends
import Mathlib.Logic.Function.Basic

/-!
What removals leave of an inventory.

Requests for one id are put together first, and each id is then taken on its own, from the front.
* `Inventory.Yields`: what is left when, in one pass, every entry gives what is still wanted of its id.
* `Inventory.yields_takeAll`: taking the ids one after another leaves the same.
* `Inventory.removeItems_yields`: removals leave that, or all as it was when of some id there is less
  than they ask for.
-/

set_option autoImplicit false

namespace InteractiveFiction

open Course

namespace Inventory

/-! ## Taking things of one id -/

section Taking

variable {id : String} {quantity : Int} {entry : Item} (entries : List Item)

theorem take_of_done (done : quantity ≤ 0) : (take id quantity entries).1 = entries := by
  cases entries with
  | nil => rfl
  | cons entry entries => rw [take, if_pos done]

variable (wanted : 0 < quantity)

include wanted

theorem take_of_ne (other : entry.id ≠ id) :
    (take id quantity (entry :: entries)).1 = entry :: (take id quantity entries).1 := by
  rw [take, if_neg (by omega), if_pos other]

theorem take_of_spent (own : entry.id = id) (all : entry.quantity ≤ quantity) :
    (take id quantity (entry :: entries)).1 = (take id (quantity - entry.quantity) entries).1 := by
  rw [take, if_neg (by omega), if_neg (by simpa using own), Int.min_eq_left all]
  dsimp only
  rw [if_pos (by omega)]

theorem take_of_more (own : entry.id = id) (more : quantity < entry.quantity) :
    (take id quantity (entry :: entries)).1 =
      { entry with quantity := entry.quantity - quantity } :: entries := by
  rw [take, if_neg (by omega), if_neg (by simpa using own), Int.min_eq_right (by omega)]
  dsimp only
  rw [if_neg (by omega), take_of_done entries (by omega)]

end Taking

/-! ## One pass -/

/-- What is left when every entry in its turn gives what is still wanted of its id. -/
inductive Yields : (String → Int) → List Item → List Item → Prop
  | nil (wanted : String → Int) : Yields wanted [] []
  /-- The entry gives all it has and is gone. -/
  | spent {wanted : String → Int} {entry : Item} {entries left : List Item}
      (all : entry.quantity ≤ wanted entry.id)
      (rest : Yields (Function.update wanted entry.id (wanted entry.id - entry.quantity)) entries
        left) :
      Yields wanted (entry :: entries) left
  /-- The entry gives what is wanted and keeps what it has beyond that. -/
  | shrunk {wanted : String → Int} {entry : Item} {entries left : List Item}
      (asked : 0 < wanted entry.id) (more : wanted entry.id < entry.quantity)
      (rest : Yields (Function.update wanted entry.id 0) entries left) :
      Yields wanted (entry :: entries)
        ({ entry with quantity := entry.quantity - wanted entry.id } :: left)
  | untouched {wanted : String → Int} {entry : Item} {entries left : List Item}
      (unasked : wanted entry.id = 0) (rest : Yields wanted entries left) :
      Yields wanted (entry :: entries) (entry :: left)

namespace Yields

variable {wanted : String → Int} {items left : List Item}

theorem refl (items : List Item) : Yields (fun _ => 0) items items := by
  induction items with
  | nil => exact .nil _
  | cons entry entries ih => exact .untouched rfl ih

/-- Where nothing of an id is wanted, what is taken of it first might have been wanted as well. -/
theorem of_take {id : String} {quantity : Int} (unasked : wanted id = 0) (nonneg : 0 ≤ quantity)
    (h : Yields wanted (take id quantity items).1 left) :
    Yields (Function.update wanted id quantity) items left := by
  induction items generalizing wanted quantity left with
  | nil =>
    cases h
    exact .nil _
  | cons entry entries ih =>
    by_cases done : quantity ≤ 0
    · obtain rfl : quantity = 0 := by omega
      rw [take_of_done _ done] at h
      rwa [← unasked, Function.update_eq_self]
    have some_ : 0 < quantity := by omega
    by_cases own : entry.id = id
    · subst own
      have asked : Function.update wanted entry.id quantity entry.id = quantity :=
        Function.update_self _ _ _
      by_cases all : entry.quantity ≤ quantity
      · rw [take_of_spent entries some_ rfl all] at h
        refine .spent (by rwa [asked]) ?_
        rw [asked, Function.update_idem]
        exact ih unasked (by omega) h
      · rw [take_of_more entries some_ rfl (by omega)] at h
        -- Nothing more is wanted of the entry, which still has something.
        cases h with
        | spent all' rest =>
          dsimp only at all'
          omega
        | shrunk asked' more rest =>
          dsimp only at asked'
          omega
        | @untouched _ _ _ kept _ rest =>
          have shrinks : Yields (Function.update wanted entry.id quantity) (entry :: entries)
              ({ entry with quantity :=
                entry.quantity - Function.update wanted entry.id quantity entry.id } :: kept) := by
            refine .shrunk (by rwa [asked]) (by rw [asked]; omega) ?_
            rwa [Function.update_idem, ← unasked, Function.update_eq_self]
          rwa [asked] at shrinks
    · rw [take_of_ne entries some_ own] at h
      have same : Function.update wanted id quantity entry.id = wanted entry.id :=
        Function.update_of_ne own _ _
      have still : ∀ n, Function.update wanted entry.id n id = 0 := fun n => by
        rw [Function.update_of_ne (Ne.symm own), unasked]
      cases h with
      | spent all rest =>
        refine .spent (by rwa [same]) ?_
        rw [same, Function.update_comm (Ne.symm own)]
        exact ih (still _) nonneg rest
      | shrunk asked more rest =>
        rw [← same] at asked more ⊢
        refine .shrunk asked more ?_
        rw [Function.update_comm (Ne.symm own)]
        exact ih (still _) nonneg rest
      | untouched none rest => exact .untouched (same.trans none) (ih unasked nonneg rest)

end Yields

/-! ## All that is wanted -/

theorem yields_takeAll {wanted : List (String × Int)} (once : (wanted.map Prod.fst).Nodup)
    (nonneg : ∀ entry ∈ wanted, 0 ≤ entry.2) (items : List Item) :
    Yields (fun id => (wanted.lookup id).getD 0) items (takeAll wanted items) := by
  induction wanted generalizing items with
  | nil => exact .refl items
  | cons entry wanted ih =>
    obtain ⟨name, quantity⟩ := entry
    obtain ⟨new, once⟩ := List.nodup_cons.1 once
    obtain ⟨own, others⟩ := List.forall_mem_cons.1 nonneg
    have absent : wanted.lookup name = none := by
      rw [List.lookup_eq_none_iff]
      intro entry mem
      have different : entry.1 ≠ name := fun same => new (List.mem_map.2 ⟨entry, mem, same⟩)
      simpa using different.symm
    have added : (fun id => (((name, quantity) :: wanted).lookup id).getD 0) =
        Function.update (fun id => (wanted.lookup id).getD 0) name quantity := by
      funext id
      by_cases same : id = name
      · subst same
        rw [List.lookup_cons_self, Function.update_self]
        rfl
      · rw [List.lookup_cons, beq_false_of_ne same, Function.update_of_ne same]
    rw [added]
    exact .of_take (by rw [absent]; rfl) own (ih once others _)

theorem covers_iff {items : List Item} (h : Stocked items) (removals : List ItemRemoval) :
    covers items removals = true ↔ ∀ id, requested removals id ≤ count items id := by
  constructor
  · intro enough id
    cases found : (needed removals).get? id with
    | none =>
      have nothing := get?_needed removals id
      rw [found] at nothing
      rw [← nothing]
      exact h.count_nonneg id
    | some quantity =>
      have asked := get?_needed removals id
      rw [found] at asked
      rw [← asked]
      exact enough_of_covers enough _ (OrderedMap.mem_of_get? found)
  · intro enough
    refine List.all_eq_true.2 fun entry mem => decide_eq_true ?_
    have asked := get?_needed removals entry.1
    rw [OrderedMap.get?_of_mem mem] at asked
    exact Int.le_trans (Int.le_of_eq asked) (enough entry.1)

theorem removeItems_of_short {removals : List ItemRemoval} {stage : Stage}
    (short : covers stage.state.inventory removals = false) :
    outcome (removeItems removals) stage = (.ok false, stage) := by
  unfold removeItems
  rw [outcome_bind_of_ok (Action.outcome_state stage)]
  change outcome (if covers stage.state.inventory removals then _ else pure false) stage = _
  rw [short]
  rfl

theorem needed_nonneg {removals : List ItemRemoval}
    (positive : ∀ removal ∈ removals, 1 ≤ removal.quantity) :
    ∀ entry ∈ (needed removals).entries, 0 ≤ entry.2 := by
  intro entry mem
  have asked := get?_needed removals entry.1
  rw [OrderedMap.get?_of_mem mem] at asked
  exact Int.le_trans (requested_nonneg positive entry.1) (Int.le_of_eq asked.symm)

/-- Removals are all done where of every id there is as much as they ask for together, and then every
entry gives in its turn what is still wanted of its id; else nothing is done and nothing announced. -/
theorem removeItems_yields {stage : Stage} (stocked : Stocked stage.state.inventory)
    {removals : List ItemRemoval} (positive : ∀ removal ∈ removals, 1 ≤ removal.quantity) :
    ∃ removed last, outcome (removeItems removals) stage = (.ok removed, last) ∧
      (removed = true ↔ ∀ id, requested removals id ≤ count stage.state.inventory id) ∧
      (removed = true → ∃ left, last.state = stage.state.holding left ∧
        Yields (requested removals) stage.state.inventory left ∧ Stocked left ∧
        ∀ id, count left id = count stage.state.inventory id - requested removals id) ∧
      (removed = false → last = stage) := by
  obtain ⟨last, ends, left⟩ := removeItems_ends removals stage
  refine ⟨_, last, ends, covers_iff stocked removals, fun removed => ?_, fun kept => ?_⟩
  · rw [removed, if_pos rfl] at left
    refine ⟨_, left, ?_, stocked_takeAll _ stocked, ?_⟩
    · have yields := yields_takeAll (needed removals).nodup (needed_nonneg positive)
        stage.state.inventory
      have same : (fun id => ((needed removals).entries.lookup id).getD 0) = requested removals :=
        funext (get?_needed removals)
      rwa [same] at yields
    · exact count_removed stocked positive (enough_of_covers removed)
  · exact congrArg Prod.snd (ends.symm.trans (removeItems_of_short kept))

/-- Coins in two purses, and herbs. -/
def satchel : Stage where
  now := 0.0
  state := { GameState.starting 0.0 "play" "tale" "gate" "Ada" {} with
    inventory := [
      { id := "coin", name := "Coin", quantity := 2 },
      { id := "herb", name := "Herb", quantity := 2 },
      { id := "coin", name := "Coin", quantity := 5, stackable := true },
      { id := "lamp", name := "Lamp" }] }

/-- Three coins and a herb, the coins asked for twice. -/
def toll : List ItemRemoval :=
  [{ id := "coin" }, { id := "herb" }, { id := "coin", quantity := 2 }]

theorem satchel_pays_toll :
    Stocked satchel.state.inventory ∧ (∀ removal ∈ toll, 1 ≤ removal.quantity) ∧
      ∃ last, outcome (removeItems toll) satchel = (.ok true, last) ∧
        last.state.inventory = [
          { id := "herb", name := "Herb", quantity := 1 },
          { id := "coin", name := "Coin", quantity := 4, stackable := true },
          { id := "lamp", name := "Lamp" }] ∧
        ∀ id, count last.state.inventory id = count satchel.state.inventory id - requested toll id := by
  have stocked : Stocked satchel.state.inventory := by decide +kernel
  have positive : ∀ removal ∈ toll, 1 ≤ removal.quantity := by decide +kernel
  have pays : (outcome (removeItems toll) satchel).1.toOption = some true := by decide +kernel
  obtain ⟨removed, last, ends, -, takes, -⟩ := removeItems_yields stocked positive
  have isRemoved : removed = true := by
    rw [ends] at pays
    exact Option.some.inj pays
  obtain ⟨left, leaves, -, -, counts⟩ := takes isRemoved
  refine ⟨stocked, positive, last, isRemoved ▸ ends, ?_, ?_⟩
  · have same : last = after (removeItems toll) satchel := by rw [after, ends]
    rw [same]
    decide +kernel
  · rw [leaves]
    exact counts

end Inventory

end InteractiveFiction
