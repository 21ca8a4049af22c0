import InteractiveFiction.Proofs.Inventory.Ends
import InteractiveFiction.Proofs.Number.Order
import InteractiveFiction.Proofs.Story.Resemblance
import Mathlib.Algebra.BigOperators.Group.List.Basic
import Mathlib.Data.String.Basic

/-!
Sorting, and what does not depend on the order of an inventory.

* `InventoryOrder.Leads`: which of two items may stand before the other.
* `InventoryOrder.Suits`: items that an order can compare, as they have texts where it asks for texts.
* `Inventory.sort_settles`: the entries of a sorted inventory are those there were, in order, and of
  two that tie the one that stood first stands first.  Nobody who plays can tell that it was sorted.
-/

set_option autoImplicit false

namespace InteractiveFiction

open Course

/-! ## Stable sorting -/

/-- Elements that may stand in either order keep the one they have. -/
theorem filter_mergeSort {α : Type} {le : α → α → Bool}
    (trans : ∀ a b c, le a b = true → le b c = true → le a c = true)
    (total : ∀ a b, (le a b || le b a) = true) {tied : α → Bool}
    (ties : ∀ a b, tied a = true → tied b = true → le a b = true) (items : List α) :
    (items.mergeSort le).filter tied = items.filter tied := by
  have ordered : (items.filter tied).Pairwise fun a b => le a b = true :=
    List.pairwise_of_forall_mem_list fun a memA b memB =>
      ties a b (List.mem_filter.1 memA).2 (List.mem_filter.1 memB).2
  have kept : (items.filter tied).Sublist (items.mergeSort le) :=
    List.sublist_mergeSort trans total ordered List.filter_sublist
  have kept := kept.filter tied
  rw [List.filter_filter] at kept
  simp only [Bool.and_self] at kept
  exact (kept.eq_of_length ((List.mergeSort_perm items le).filter tied).length_eq.symm).symm

namespace InventoryOrder

/-! ## Orders -/

/-- The text that is compared where an item has one. -/
def textOf (d : Document) : String :=
  d.text?.getD ""

/-- An item that may stand before another. -/
def Leads (order : InventoryOrder) (a b : Item) : Prop :=
  match order with
  | .name => lowerText (textOf a.name) ≤ lowerText (textOf b.name)
  | .type => textOf a.type ≤ textOf b.type
  | .value => b.value ≤ a.value
  | .rarity => rarityRank b.rarity ≤ rarityRank a.rarity

/-- Two items either of which may stand before the other. -/
def Ties (order : InventoryOrder) (a b : Item) : Prop :=
  order.Leads a b ∧ order.Leads b a

/-- Items have what an order compares: a name or a type that is a text, or a rarity that can be
looked up. -/
def Suits (order : InventoryOrder) (items : List Item) : Prop :=
  ∀ item ∈ items,
    match order with
    | .name => item.name = .text (textOf item.name)
    | .type => item.type = .text (textOf item.type)
    | .value => True
    | .rarity => item.rarity.isKey = true

instance (order : InventoryOrder) (a b : Item) : Decidable (order.Leads a b) := by
  cases order <;> exact inferInstanceAs (Decidable (_ ≤ _))

instance (order : InventoryOrder) (a b : Item) : Decidable (order.Ties a b) :=
  inferInstanceAs (Decidable (_ ∧ _))

variable {order : InventoryOrder}

theorem Leads.trans {a b c : Item} (first : order.Leads a b) (second : order.Leads b c) :
    order.Leads a c := by
  cases order with
  | name | type => exact le_trans first second
  | value | rarity => exact le_trans second first

theorem leads_total (order : InventoryOrder) (a b : Item) : order.Leads a b ∨ order.Leads b a := by
  cases order <;> exact le_total _ _

/-! ## Keys -/

/-- What an item that suits an order is sorted by. -/
def rank (order : InventoryOrder) (item : Item) : Document :=
  match order with
  | .name => .text (lowerText (textOf item.name))
  | .type => .text (textOf item.type)
  | .value => .int (-item.value)
  | .rarity => .int (-rarityRank item.rarity)

theorem key_of_suits {items : List Item} (suits : order.Suits items) :
    ∀ item ∈ items, order.key item = .ok (order.rank item) := by
  intro item mem
  have suited := suits item mem
  cases order with
  | name =>
    dsimp only at suited
    rw [key, suited]
    rfl
  | type =>
    dsimp only at suited
    rw [key, suited]
    rfl
  | value => rfl
  | rarity =>
    have looked : item.rarity.checkKey = .ok () := by
      rw [Document.checkKey, if_pos suited]
      rfl
    rw [key, looked]
    rfl

theorem order?_text (s t : String) :
    (Document.text s).order? (.text t) = some (compare s t) := rfl

theorem order?_int (a b : Int) :
    (Document.int a).order? (.int b) = some (compare a b) :=
  Number.compare?_int a b

theorem comparable_ranks (order : InventoryOrder) (items : List Item) :
    comparable (items.map order.rank) = true := by
  induction items with
  | nil => rfl
  | cons item items ih =>
    cases items with
    | nil => rfl
    | cons next items =>
      have both : ((order.rank item).order? (order.rank next)).isSome = true := by
        cases order with
        | name | type => rfl
        | value | rarity => rw [rank, rank, order?_int, Option.isSome_some]
      rw [List.map_cons, List.map_cons, comparable, both, Bool.true_and]
      exact ih

theorem atMost_rank (order : InventoryOrder) (a b : Item) :
    atMost (order.rank a) (order.rank b) = decide (order.Leads a b) := by
  rw [Bool.eq_iff_iff, decide_eq_true_iff, atMost, bne_iff_ne]
  cases order with
  | name | type =>
    rw [rank, rank, order?_text, ne_eq, Option.some.injEq, compare_gt_iff_gt, not_lt]
    rfl
  | value | rarity =>
    rw [rank, rank, order?_int, ne_eq, Option.some.injEq, compare_gt_iff_gt, not_lt,
      Int.neg_le_neg_iff]
    rfl

/-! ## Sorting -/

def sorted (order : InventoryOrder) (items : List Item) : List Item :=
  items.mergeSort fun a b => decide (order.Leads a b)

theorem sort_of_suits {items : List Item} (suits : order.Suits items) :
    order.sort items = .ok (order.sorted items) := by
  have keyed : (items.mapM fun item => do pure ((← order.key item), item) :
      Result (List (Document × Item))) = .ok (items.map fun item => (order.rank item, item)) := by
    have each : ∀ item ∈ items, (do pure ((← order.key item), item) : Result (Document × Item)) =
        .ok (order.rank item, item) := by
      intro item mem
      rw [key_of_suits suits item mem]
      rfl
    have read := Result.mapM_map_ok (f := fun item => do pure ((← order.key item), item))
      (g := id) (h := fun item => (order.rank item, item)) each
    rwa [List.map_id] at read
  unfold sort sorted
  have ranks : (items.map fun item => (order.rank item, item)).map Prod.fst =
      items.map order.rank := List.map_map
  rw [keyed]
  change (if _ then _ else _) = _
  have sorts := List.map_mergeSort (r := fun a b => decide (order.Leads a b))
    (s := fun a b : Document × Item => atMost a.1 b.1) (f := fun item => (order.rank item, item))
    (l := items) fun a _ b _ => (atMost_rank order a b).symm
  rw [ranks, if_pos (comparable_ranks order items), ← sorts, List.map_map]
  exact congrArg Except.ok (List.map_id' _)

variable (order : InventoryOrder) (items : List Item)

theorem sorted_perm : (order.sorted items).Perm items :=
  List.mergeSort_perm _ _

theorem leads_trans_decide (a b c : Item) (first : decide (order.Leads a b) = true)
    (second : decide (order.Leads b c) = true) : decide (order.Leads a c) = true :=
  decide_eq_true ((of_decide_eq_true first).trans (of_decide_eq_true second))

theorem leads_total_decide (a b : Item) :
    (decide (order.Leads a b) || decide (order.Leads b a)) = true := by
  rw [Bool.or_eq_true, decide_eq_true_iff, decide_eq_true_iff]
  exact order.leads_total a b

theorem sorted_leads : (order.sorted items).Pairwise order.Leads := by
  have ordered := List.pairwise_mergeSort order.leads_trans_decide order.leads_total_decide items
  exact ordered.imp of_decide_eq_true

theorem sorted_ties (item : Item) :
    (order.sorted items).filter (fun other => decide (order.Ties other item)) =
      items.filter fun other => decide (order.Ties other item) := by
  refine filter_mergeSort order.leads_trans_decide order.leads_total_decide (fun a b => ?_) items
  intro first second
  exact decide_eq_true ((of_decide_eq_true first).1.trans (of_decide_eq_true second).2)

end InventoryOrder

/-! ## Inventories in another order -/

namespace GameState

variable {state : GameState} {items : List Item} (perm : items.Perm state.inventory)

include perm

/-- Nothing that counts entries depends on their order. -/
theorem quantity_holding (among : Item → Bool) :
    ((items.filter among).map Item.quantity).foldr (· + ·) 0 =
      ((state.inventory.filter among).map Item.quantity).foldr (· + ·) 0 :=
  ((perm.filter among).map Item.quantity).foldr_eq 0

theorem findItem?_holding (id : Document) :
    ((state.holding items).findItem? id).isSome = (state.findItem? id).isSome := by
  rw [findItem?, findItem?, Bool.eq_iff_iff, List.find?_isSome, List.find?_isSome]
  constructor
  · exact fun ⟨item, mem, own⟩ => ⟨item, perm.mem_iff.1 mem, own⟩
  · exact fun ⟨item, mem, own⟩ => ⟨item, perm.mem_iff.2 mem, own⟩

theorem resembles_holding : (state.holding items).Resembles state where
  answer hour fields subject operator := by
    cases subject with
    | hasItem => exact findItem?_holding perm _
    | itemCount =>
      have counts (id : Document) : (state.holding items).countItem id = state.countItem id :=
        quantity_holding perm fun item => .text item.id == id
      simp only [Leaf.answer, counts]
    | quantity q => cases q <;> rfl
    | _ => rfl
  value placeholder := by
    cases placeholder with
    | itemCount idOrName => exact congrArg Document.int (quantity_holding perm _)
    | player field => rfl
    | flag name => rfl

theorem resource_holding (name : String) :
    (state.holding items).resource name = state.resource name := by
  unfold resource
  split
  · rfl
  · rfl
  · rfl
  · rfl
  · exact congrArg Number.int (quantity_holding perm _)

theorem checkResources_holding (required : List (String × Number)) :
    (state.holding items).checkResources required = state.checkResources required := by
  unfold checkResources
  simp only [resource_holding perm]

end GameState

namespace Inventory

/-- Sorting leaves the entries there were.  By what is no order nothing is sorted.  By one that can
compare them the entries are put in order, those that tie as they stood, and nothing else changes.
States that hold the same entries in any order answer every condition alike, can pay for the same and
have every text written alike; they show the same scenes and allow the same choices. -/
theorem sort_settles (key : Document) (stage : Stage) :
    (∃ entries, entries.Perm stage.state.inventory ∧
      (after (Inventory.sort key) stage).state = stage.state.holding entries) ∧
    (InventoryOrder.ofDocument? key = none →
      outcome (Inventory.sort key) stage = (.error (.value (.sortKey key)), stage)) ∧
    (∀ order, InventoryOrder.ofDocument? key = some order → order.Suits stage.state.inventory →
      ∃ entries, outcome (Inventory.sort key) stage =
          (.ok (), { stage with state := stage.state.holding entries }.publish
            (.inventorySorted order.label)) ∧
        entries.Perm stage.state.inventory ∧ entries.Pairwise order.Leads ∧
        ∀ item, entries.filter (fun other => decide (order.Ties other item)) =
          stage.state.inventory.filter fun other => decide (order.Ties other item)) ∧
    ∀ entries, entries.Perm stage.state.inventory →
      let other := stage.state.holding entries
      (∀ hour condition,
        Condition.evaluate hour other condition = Condition.evaluate hour stage.state condition) ∧
      (∀ required, other.checkResources required = stage.state.checkResources required) ∧
      (∀ text, Template.write other text = Template.write stage.state text) ∧
      (∀ now choices (scene : Scene),
        scene.present now other choices = scene.present now stage.state choices) ∧
      ∀ now startedAt (choice : Choice),
        choice.judge now other startedAt = choice.judge now stage.state startedAt := by
  refine ⟨?_, fun unknown => ?_, fun order known suits => ?_, fun entries perm => ?_⟩
  · rcases ends : outcome (Inventory.sort key) stage with ⟨r, last⟩
    rw [after, ends]
    rcases sort_ends ends with ⟨-, -, same⟩ | ⟨entries, perm, -, left⟩
    · exact ⟨stage.state.inventory, .refl _, same⟩
    · exact ⟨entries, perm, left⟩
  · unfold Inventory.sort
    rw [unknown]
    rfl
  · refine ⟨order.sorted stage.state.inventory, ?_, order.sorted_perm _, order.sorted_leads _,
      order.sorted_ties _⟩
    unfold Inventory.sort
    rw [known]
    dsimp only
    rw [outcome_bind_of_ok (Action.outcome_state stage), InventoryOrder.sort_of_suits suits]
    rfl
  · have resembles := GameState.resembles_holding perm
    refine ⟨resembles.evaluate, GameState.checkResources_holding perm, resembles.write, ?_, ?_⟩
    · exact fun now choices scene => scene.present_of_resembles resembles now choices
    · exact fun now startedAt choice => choice.judge_of_resembles now resembles startedAt

/-- Some things like most, and a ring and a gem that are rare. -/
def wares : Stage where
  now := 0.0
  state := { GameState.starting 0.0 "play" "tale" "gate" "Ada" {} with
    inventory := [
      { id := "lamp", name := "Lamp" },
      { id := "ring", name := "Ring", rarity := "rare" },
      { id := "coin", name := "Coin", rarity := "worn" },
      { id := "gem", name := "Gem", rarity := "rare" }] }

theorem wares_by_rarity : InventoryOrder.ofDocument? "rarity" = some .rarity ∧
    InventoryOrder.rarity.Suits wares.state.inventory ∧
    ∃ entries, (after (Inventory.sort "rarity") wares).state = wares.state.holding entries ∧
      entries.Perm wares.state.inventory ∧ entries.Pairwise InventoryOrder.rarity.Leads ∧
      (entries.filter fun other => decide (InventoryOrder.rarity.Ties other
        { id := "ring", name := "Ring", rarity := "rare" })).map Item.id = ["ring", "gem"] ∧
      Template.write (wares.state.holding entries) "\x7binventory.count.gem\x7d" =
        Template.write wares.state "\x7binventory.count.gem\x7d" := by
  have known : InventoryOrder.ofDocument? "rarity" = some .rarity := by decide
  have suits : InventoryOrder.rarity.Suits wares.state.inventory := by
    unfold InventoryOrder.Suits
    decide +kernel
  obtain ⟨-, -, sorts, alike⟩ := sort_settles "rarity" wares
  obtain ⟨entries, ends, perm, leads, ties⟩ := sorts .rarity known suits
  refine ⟨known, suits, entries, ?_, perm, leads, ?_, (alike entries perm).2.2.1 _⟩
  · rw [after, ends]
    rfl
  · rw [ties]
    decide +kernel

/-- Of two parcels one has a number for its type. -/
def parcels : Stage where
  now := 0.0
  state := { GameState.starting 0.0 "play" "tale" "gate" "Ada" {} with
    inventory := [{ id := "a", name := "A" }, { id := "b", name := "B", type := .int 1 }] }

/-- Types that are not all texts are not put in order, although the order is known. -/
theorem parcels_unsorted_by_type : InventoryOrder.ofDocument? "type" = some .type ∧
    outcome (Inventory.sort "type") parcels =
      (.error (.mistyped (.operand "the types of items have no common order")), parcels) := by
  have unsorted : InventoryOrder.type.sort parcels.state.inventory =
      .error (.mistyped (.operand "the types of items have no common order")) := by
    decide +kernel
  refine ⟨by decide, ?_⟩
  unfold Inventory.sort
  rw [show InventoryOrder.ofDocument? "type" = some .type by decide]
  dsimp only
  rw [outcome_bind_of_ok (Action.outcome_state parcels), unsorted]
  rfl

end Inventory

end InteractiveFiction
