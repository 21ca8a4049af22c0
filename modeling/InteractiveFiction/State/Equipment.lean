import InteractiveFiction.State.Item

/-!
Equipment: what a player wears, by slot.

A slot is named by any value that can be a key.  Values that are equal name one slot, which keeps the
name it was given first.
-/

set_option autoImplicit false

namespace InteractiveFiction

structure Equipment where
  entries : List (Document × Item)
  distinct : entries.Pairwise fun a b => a.1.equals b.1 = false

namespace Equipment

instance : DecidableEq Equipment := fun a b =>
  decidable_of_iff (a.entries = b.entries) (by cases a; cases b; simp)

def empty : Equipment := ⟨[], .nil⟩

def item? (worn : Equipment) (slot : Document) : Option Item :=
  (worn.entries.find? fun entry => entry.1.equals slot).map Prod.snd

def isWorn (worn : Equipment) (slot : Document) : Bool :=
  worn.entries.any fun entry => entry.1.equals slot

def replace (slot : Document) (item : Item) (entry : Document × Item) : Document × Item :=
  if entry.1.equals slot then (entry.1, item) else entry

theorem replace_fst (slot : Document) (item : Item) (entry : Document × Item) :
    (replace slot item entry).1 = entry.1 := by
  unfold replace
  split <;> rfl

theorem distinct_map_replace (worn : Equipment) (slot : Document) (item : Item) :
    (worn.entries.map (replace slot item)).Pairwise fun a b => a.1.equals b.1 = false := by
  rw [List.pairwise_map]
  refine worn.distinct.imp fun {a b} different => ?_
  rw [replace_fst, replace_fst]
  exact different

theorem distinct_append_new (worn : Equipment) {slot : Document} (item : Item)
    (new : ¬ worn.isWorn slot = true) :
    (worn.entries ++ [(slot, item)]).Pairwise fun a b => a.1.equals b.1 = false := by
  rw [List.pairwise_append]
  refine ⟨worn.distinct, List.pairwise_singleton _ _, ?_⟩
  intro a mem b isNew
  obtain rfl := List.mem_singleton.1 isNew
  by_cases equal : a.1.equals slot = true
  · exact absurd (List.any_eq_true.2 ⟨a, mem, equal⟩) new
  · simpa using equal

/-- Puts an item into a slot, in the place of what was there. -/
def put (worn : Equipment) (slot : Document) (item : Item) : Equipment :=
  if known : worn.isWorn slot = true then
    ⟨worn.entries.map (replace slot item), worn.distinct_map_replace slot item⟩
  else ⟨worn.entries ++ [(slot, item)], worn.distinct_append_new item known⟩

def clear (worn : Equipment) (slot : Document) : Equipment :=
  ⟨worn.entries.filter fun entry => !entry.1.equals slot, worn.distinct.sublist List.filter_sublist⟩

def ofFields (fields : Fields) : Result Equipment :=
  fields.foldlM (fun worn (slot, item) => do pure (worn.put (.text slot) (← Item.ofDocument item)))
    empty

def toDocument (worn : Equipment) : Document :=
  .object (worn.entries.map fun (slot, item) => (slot.toKey, item.toDocument))

end Equipment

end InteractiveFiction
