import InteractiveFiction.Inventory
import InteractiveFiction.Proofs.Course
import InteractiveFiction.Proofs.OrderedMap
import Mathlib.Algebra.Ring.Int.Defs

/-!
How many things there are in an inventory, and what the operations on stacks make of that.

* `Inventory.amount`: the things whose ids are among some; all of them, or those of one id.
* `Inventory.Enters`: what an inventory becomes when an item is put into it.
* `Inventory.amount_take`: what is taken is missing afterwards, and nothing else is.
* `Inventory.count_removed`: so it is for removals of several things, named more than once or not.
-/

set_option autoImplicit false

namespace InteractiveFiction

/-! ## Amounts -/

/-- What an entry adds to the count of the things whose ids are among some. -/
def Item.share (among : String → Bool) (item : Item) : Int :=
  if among item.id then item.quantity else 0

namespace Inventory

def amount (among : String → Bool) (items : List Item) : Int :=
  (items.map (Item.share among)).sum

section Amounts

variable {among : String → Bool}

@[simp] theorem amount_nil : amount among [] = 0 := rfl

@[simp] theorem amount_cons (item : Item) (items : List Item) :
    amount among (item :: items) = item.share among + amount among items :=
  List.sum_cons

@[simp] theorem amount_append (items items' : List Item) :
    amount among (items ++ items') = amount among items + amount among items' := by
  induction items with
  | nil => simp
  | cons item items ih =>
    rw [List.cons_append, amount_cons, amount_cons, ih, Int.add_assoc]

theorem amount_perm {items items' : List Item} (h : items.Perm items') :
    amount among items = amount among items' := by
  induction h with
  | nil => rfl
  | cons item _ ih => rw [amount_cons, amount_cons, ih]
  | swap item other items =>
    simp only [amount_cons]
    omega
  | trans _ _ ih ih' => exact ih.trans ih'

end Amounts

theorem used_eq_amount (items : List Item) : used items = amount (fun _ => true) items := by
  induction items with
  | nil => rfl
  | cons item items ih =>
    rw [amount_cons, ← ih]
    rfl

theorem count_eq_amount (items : List Item) (id : String) :
    count items id = amount (· == id) items := by
  induction items with
  | nil => rfl
  | cons item items ih =>
    rw [amount_cons, ← ih, Item.share, count, List.filter_cons]
    by_cases own : (item.id == id) = true
    · rw [if_pos own, if_pos own]
      rfl
    · rw [if_neg own, if_neg own, Int.zero_add]
      rfl

theorem count_cons (item : Item) (items : List Item) (id : String) :
    count (item :: items) id = item.share (· == id) + count items id := by
  rw [count_eq_amount, count_eq_amount, amount_cons]

/-! ## Entries that hold something -/

/-- Every entry stands for at least one thing. -/
def Stocked (items : List Item) : Prop :=
  ∀ entry ∈ items, 1 ≤ entry.quantity

instance (items : List Item) : Decidable (Stocked items) :=
  inferInstanceAs (Decidable (∀ entry ∈ items, 1 ≤ entry.quantity))

namespace Stocked

theorem cons {item : Item} {items : List Item} (own : 1 ≤ item.quantity) (h : Stocked items) :
    Stocked (item :: items) :=
  List.forall_mem_cons.2 ⟨own, h⟩

theorem append {items items' : List Item} (h : Stocked items) (h' : Stocked items') :
    Stocked (items ++ items') :=
  List.forall_mem_append.2 ⟨h, h'⟩

theorem amount_nonneg {items : List Item} (h : Stocked items) (among : String → Bool) :
    0 ≤ amount among items := by
  induction items with
  | nil => exact Int.le_refl 0
  | cons item items ih =>
    obtain ⟨own, others⟩ := List.forall_mem_cons.1 h
    have rest := ih others
    rw [amount_cons, Item.share]
    split <;> omega

theorem count_nonneg {items : List Item} (h : Stocked items) (id : String) :
    0 ≤ count items id := by
  rw [count_eq_amount]
  exact h.amount_nonneg _

theorem one_le_count {items : List Item} (h : Stocked items) {item : Item} (mem : item ∈ items) :
    1 ≤ count items item.id := by
  obtain ⟨front, back, rfl⟩ := List.append_of_mem mem
  obtain ⟨inFront, behind⟩ := List.forall_mem_append.1 h
  obtain ⟨own, inBack⟩ := List.forall_mem_cons.1 behind
  have before := Stocked.amount_nonneg inFront (· == item.id)
  have after := Stocked.amount_nonneg inBack (· == item.id)
  rw [count_eq_amount, amount_append, amount_cons, Item.share, if_pos (beq_self_eq_true item.id)]
  omega

end Stocked

/-! ## Growing -/

/-- What an inventory may become when an item is put into it: the item joins a stack of its id that
has room by the limit the item gives, or it is a new entry at the end. -/
inductive Enters (item : Item) (items : List Item) : List Item → Prop
  | joins {front back : List Item} {entry : Item} (place : items = front ++ entry :: back)
      (same : entry.id = item.id) (stackable : entry.stackable = true)
      (room : fits (entry.quantity + item.quantity) (stackLimit item) = .ok true) :
      Enters item items
        (front ++ { entry with quantity := entry.quantity + item.quantity } :: back)
  | follows : Enters item items (items ++ [item])

theorem merge_joins {item : Item} {items grown : List Item}
    (h : merge item items = .ok (some grown)) : Enters item items grown := by
  induction items generalizing grown with
  | nil => cases h
  | cons entry entries ih =>
    have search (h : (do pure ((← merge item entries).map (entry :: ·)) : Result _) =
        .ok (some grown)) : Enters item (entry :: entries) grown := by
      obtain ⟨merged, merges, given⟩ := Result.ok_of_bind h
      obtain ⟨rest, rfl, rfl⟩ := Option.map_eq_some_iff.1 (Except.ok.inj given)
      cases ih merges with
      | @joins front back stack place same stackable room =>
        have behind : entry :: entries = (entry :: front) ++ stack :: back := by
          rw [place, List.cons_append]
        exact .joins behind same stackable room
      | follows => exact .follows
    unfold merge at h
    dsimp only at h
    split at h
    · rename_i own
      obtain ⟨same, stackable⟩ := Bool.and_eq_true_iff.1 own
      obtain ⟨fit, room, rest⟩ := Result.ok_of_bind h
      cases fit with
      | false => exact search rest
      | true =>
        cases rest
        have first : entry :: entries = [] ++ entry :: entries := rfl
        exact .joins first (eq_of_beq same) stackable room
    · exact search h

theorem insert_enters {item : Item} {items grown : List Item}
    (h : insert items item = .ok grown) : Enters item items grown := by
  unfold insert at h
  dsimp only at h
  split at h
  · obtain ⟨merged, merges, rest⟩ := Result.ok_of_bind h
    cases merged with
    | none =>
      cases rest
      exact .follows
    | some items =>
      cases rest
      exact merge_joins merges
  · cases h
    exact .follows

namespace Enters

variable {item : Item} {items grown : List Item}

theorem amount (h : Enters item items grown) (among : String → Bool) :
    Inventory.amount among grown = Inventory.amount among items + item.share among := by
  cases h with
  | joins place same =>
    subst place
    simp only [amount_append, amount_cons, Item.share, same]
    split <;> omega
  | follows => simp

theorem stocked (h : Enters item items grown) (start : Stocked items)
    (positive : 1 ≤ item.quantity) : Stocked grown := by
  cases h with
  | joins place =>
    subst place
    obtain ⟨inFront, behind⟩ := List.forall_mem_append.1 start
    obtain ⟨own, inBack⟩ := List.forall_mem_cons.1 behind
    exact Stocked.append inFront (.cons (by dsimp only; omega) inBack)
  | follows => exact start.append (.cons positive nofun)

end Enters

/-- The items of a list are put into an inventory one after another. -/
inductive EntersAll : List Item → List Item → List Item → Prop
  | nil (items : List Item) : EntersAll [] items items
  | cons {item : Item} {rest items grown last : List Item} (first : Enters item items grown)
      (others : EntersAll rest grown last) : EntersAll (item :: rest) items last

namespace EntersAll

variable {added items last : List Item}

theorem amount (h : EntersAll added items last) (among : String → Bool) :
    Inventory.amount among last = Inventory.amount among items + Inventory.amount among added := by
  induction h with
  | nil => simp
  | cons first _ ih =>
    rw [ih, first.amount, amount_cons, Int.add_assoc]

theorem stocked (h : EntersAll added items last) (start : Stocked items)
    (positive : Stocked added) : Stocked last := by
  induction h with
  | nil => exact start
  | cons first _ ih =>
    obtain ⟨own, others⟩ := List.forall_mem_cons.1 positive
    exact ih (first.stocked start own) others

end EntersAll

/-! ## Shrinking -/

/-- An entry that gave all it had is gone, and its share was what it gave. -/
theorem amount_left (among : String → Bool) {entry : Item} {given : Int}
    (within : given ≤ entry.quantity) (rest : List Item) :
    amount among (if entry.quantity - given ≤ 0 then rest
        else { entry with quantity := entry.quantity - given } :: rest) +
      (if among entry.id then given else 0) = entry.share among + amount among rest := by
  split
  · rw [Item.share]
    split <;> omega
  · rw [amount_cons, Item.share, Item.share]
    dsimp only
    split <;> omega

theorem amount_take (among : String → Bool) (id : String) (quantity : Int) (items : List Item) :
    amount among (take id quantity items).1 +
        (if among id then (take id quantity items).2.sum else 0) = amount among items := by
  induction items generalizing quantity with
  | nil => simp [take]
  | cons entry entries ih =>
    unfold take
    by_cases done : quantity ≤ 0
    · simp [if_pos done]
    rw [if_neg done, amount_cons]
    by_cases other : entry.id ≠ id
    · have rest := ih quantity
      rw [if_pos other]
      simp only [amount_cons]
      omega
    · obtain rfl := Decidable.not_not.1 other
      have rest := ih (quantity - min entry.quantity quantity)
      have own := amount_left among (Int.min_le_left entry.quantity quantity)
        (take entry.id (quantity - min entry.quantity quantity) entries).1
      rw [if_neg other]
      dsimp only
      rw [List.sum_cons]
      split at rest
      · rename_i counted
        rw [if_pos counted] at own
        rw [if_pos counted]
        omega
      · rename_i counted
        rw [if_neg counted] at own
        rw [if_neg counted]
        omega

theorem stocked_take (id : String) (quantity : Int) {items : List Item} (h : Stocked items) :
    Stocked (take id quantity items).1 := by
  induction items generalizing quantity with
  | nil => exact h
  | cons entry entries ih =>
    obtain ⟨own, others⟩ := List.forall_mem_cons.1 h
    unfold take
    split
    · exact h
    · split
      · exact .cons own (ih quantity others)
      · dsimp only
        split
        · exact ih _ others
        · exact .cons (by dsimp only; omega) (ih _ others)

/-- As many things are taken as are wanted and there. -/
theorem sum_take (id : String) (quantity : Int) {items : List Item} (h : Stocked items) :
    (take id quantity items).2.sum = min (max 0 quantity) (count items id) := by
  induction items generalizing quantity with
  | nil =>
    have none : count [] id = 0 := rfl
    rw [none, take, List.sum_nil]
    omega
  | cons entry entries ih =>
    obtain ⟨own, others⟩ := List.forall_mem_cons.1 h
    have there := Stocked.count_nonneg others id
    rw [count_cons, Item.share]
    unfold take
    by_cases done : quantity ≤ 0
    · rw [if_pos done]
      split <;> simp <;> omega
    rw [if_neg done]
    by_cases other : entry.id ≠ id
    · rw [if_pos other, if_neg (by simpa using other)]
      have rest := ih quantity others
      dsimp only
      omega
    · rw [if_neg other, if_pos (by simpa using other)]
      have rest := ih (quantity - min entry.quantity quantity) others
      dsimp only
      rw [List.sum_cons, rest]
      omega

/-- Nothing is taken of other things. -/
theorem count_take_of_ne {id other : String} (quantity : Int) (items : List Item)
    (different : other ≠ id) : count (take id quantity items).1 other = count items other := by
  have same := amount_take (· == other) id quantity items
  rw [if_neg (by simpa using different.symm)] at same
  rw [count_eq_amount, count_eq_amount]
  omega

theorem count_take_self (id : String) {quantity : Int} {items : List Item} (h : Stocked items)
    (enough : quantity ≤ count items id) :
    count (take id quantity items).1 id = count items id - max 0 quantity := by
  have less := amount_take (· == id) id quantity items
  have there := h.count_nonneg id
  rw [if_pos (beq_self_eq_true id), sum_take id quantity h] at less
  rw [← count_eq_amount, ← count_eq_amount] at less
  omega

/-! ## Removing several things -/

/-- The removals of a list done one after another. -/
def takeAll (wanted : List (String × Int)) (items : List Item) : List Item :=
  wanted.foldl (fun items entry => (take entry.1 entry.2 items).1) items

theorem stocked_takeAll (wanted : List (String × Int)) {items : List Item} (h : Stocked items) :
    Stocked (takeAll wanted items) := by
  induction wanted generalizing items with
  | nil => exact h
  | cons entry wanted ih => exact ih (stocked_take entry.1 entry.2 h)

theorem amount_takeAll_le (among : String → Bool) (wanted : List (String × Int))
    {items : List Item} (h : Stocked items) :
    amount among (takeAll wanted items) ≤ amount among items := by
  induction wanted generalizing items with
  | nil => exact Int.le_refl _
  | cons entry wanted ih =>
    have less := amount_take among entry.1 entry.2 items
    have there := h.count_nonneg entry.1
    rw [sum_take entry.1 entry.2 h] at less
    have step : amount among (take entry.1 entry.2 items).1 ≤ amount among items := by
      split at less <;> omega
    exact Int.le_trans (ih (stocked_take entry.1 entry.2 h)) step

/-- Where every id is named once and there is as much as is wanted of it, that is what is missing
afterwards. -/
theorem count_takeAll {wanted : List (String × Int)} (once : (wanted.map Prod.fst).Nodup)
    {items : List Item} (h : Stocked items)
    (enough : ∀ entry ∈ wanted, entry.2 ≤ count items entry.1) (id : String) :
    count (takeAll wanted items) id =
      count items id - max 0 ((wanted.lookup id).getD 0) := by
  induction wanted generalizing items with
  | nil => simp [takeAll]
  | cons entry wanted ih =>
    obtain ⟨name, quantity⟩ := entry
    obtain ⟨new, once⟩ := List.nodup_cons.1 once
    obtain ⟨own, others⟩ := List.forall_mem_cons.1 enough
    have rest : ∀ entry ∈ wanted, entry.2 ≤ count (take name quantity items).1 entry.1 := by
      intro entry mem
      have different : entry.1 ≠ name := fun same => new (List.mem_map.2 ⟨entry, mem, same⟩)
      rw [count_take_of_ne quantity items different]
      exact others entry mem
    have step : count (takeAll wanted (take name quantity items).1) id =
        count (take name quantity items).1 id - max 0 ((wanted.lookup id).getD 0) :=
      ih once (stocked_take name quantity h) rest
    change count (takeAll wanted (take name quantity items).1) id = _
    by_cases same : id = name
    · subst same
      have absent : wanted.lookup id = none := by
        rw [List.lookup_eq_none_iff]
        intro entry mem
        have different : entry.1 ≠ id := fun same => new (List.mem_map.2 ⟨entry, mem, same⟩)
        simpa using different.symm
      rw [step, absent, count_take_self id h own, List.lookup_cons_self]
      simp
    · have elsewhere : ((name, quantity) :: wanted).lookup id = wanted.lookup id := by
        rw [List.lookup_cons, beq_false_of_ne same]
      rw [step, elsewhere, count_take_of_ne quantity items same]

/-- How many things of an id the removals of a list ask for. -/
def requested (removals : List ItemRemoval) (id : String) : Int :=
  ((removals.filter fun removal => removal.id == id).map ItemRemoval.quantity).sum

theorem requested_cons (removal : ItemRemoval) (removals : List ItemRemoval) (id : String) :
    requested (removal :: removals) id =
      (if removal.id = id then removal.quantity else 0) + requested removals id := by
  unfold requested
  rw [List.filter_cons]
  by_cases own : removal.id = id
  · rw [if_pos (by simpa using own), if_pos own, List.map_cons, List.sum_cons]
  · rw [if_neg (by simpa using own), if_neg own, Int.zero_add]

theorem requested_nonneg {removals : List ItemRemoval}
    (positive : ∀ removal ∈ removals, 1 ≤ removal.quantity) (id : String) :
    0 ≤ requested removals id := by
  induction removals with
  | nil => exact Int.le_refl 0
  | cons removal removals ih =>
    obtain ⟨own, others⟩ := List.forall_mem_cons.1 positive
    have rest := ih others
    rw [requested_cons]
    split <;> omega

/-- Requests for one id are put together, however many there are. -/
theorem get?_needed (removals : List ItemRemoval) (id : String) :
    ((needed removals).get? id).getD 0 = requested removals id := by
  have gathers : ∀ (removals : List ItemRemoval) (known : OrderedMap Int),
      ((removals.foldl (fun needed removal => needed.insert removal.id
        ((needed.get? removal.id).getD 0 + removal.quantity)) known).get? id).getD 0 =
        (known.get? id).getD 0 + requested removals id := by
    intro removals
    induction removals with
    | nil => intro known; exact (Int.add_zero _).symm
    | cons removal removals ih =>
      intro known
      rw [List.foldl_cons, ih, requested_cons]
      by_cases own : removal.id = id
      · rw [if_pos own, own, OrderedMap.get?_insert_self, Option.getD_some, Int.add_assoc]
      · rw [if_neg own, OrderedMap.get?_insert_of_ne _ (Ne.symm own), Int.zero_add]
  exact (gathers removals .empty).trans (Int.zero_add _)

/-- Where there is as much as is asked for, that is what is missing afterwards. -/
theorem count_removed {items : List Item} {removals : List ItemRemoval} (h : Stocked items)
    (positive : ∀ removal ∈ removals, 1 ≤ removal.quantity)
    (enough : ∀ entry ∈ (needed removals).entries, entry.2 ≤ count items entry.1) (id : String) :
    count (takeAll (needed removals).entries items) id =
      count items id - requested removals id := by
  have left := count_takeAll (needed removals).nodup h enough id
  have together : (((needed removals).entries.lookup id).getD 0) = requested removals id :=
    get?_needed removals id
  have nonneg := requested_nonneg positive id
  rw [left, together, Int.max_eq_right nonneg]

end Inventory

end InteractiveFiction
