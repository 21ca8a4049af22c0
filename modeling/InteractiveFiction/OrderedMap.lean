/-!
Maps from texts that remember the order in which their keys were first written.

* `OrderedMap.insert` writes in place when the key is there and at the end when it is not.
* `OrderedMap.erase` drops a key; the others keep their order.
-/

set_option autoImplicit false

namespace InteractiveFiction

structure OrderedMap (α : Type) where
  entries : List (String × α)
  nodup : (entries.map Prod.fst).Nodup

namespace OrderedMap

variable {α β : Type}

instance [DecidableEq α] : DecidableEq (OrderedMap α) := fun a b =>
  decidable_of_iff (a.entries = b.entries) (by cases a; cases b; simp)

def empty : OrderedMap α := ⟨[], by simp⟩

instance : Inhabited (OrderedMap α) := ⟨empty⟩

def keys (m : OrderedMap α) : List String :=
  m.entries.map Prod.fst

def values (m : OrderedMap α) : List α :=
  m.entries.map Prod.snd

def size (m : OrderedMap α) : Nat :=
  m.entries.length

def isEmpty (m : OrderedMap α) : Bool :=
  m.entries.isEmpty

def get? (m : OrderedMap α) (key : String) : Option α :=
  m.entries.lookup key

def contains (m : OrderedMap α) (key : String) : Bool :=
  m.entries.any (·.1 == key)

def write (key : String) (value : α) (entry : String × α) : String × α :=
  if entry.1 = key then (key, value) else entry

theorem write_fst (key : String) (value : α) (entry : String × α) :
    (write key value entry).1 = entry.1 := by
  unfold write
  split <;> simp_all

theorem keys_map_write (key : String) (value : α) (entries : List (String × α)) :
    (entries.map (write key value)).map Prod.fst = entries.map Prod.fst := by
  rw [List.map_map]
  apply List.map_congr_left
  intro entry _
  exact write_fst key value entry

theorem nodup_append_new {entries : List (String × α)} {key : String} (value : α)
    (nodup : (entries.map Prod.fst).Nodup) (new : ¬ entries.any (·.1 == key) = true) :
    ((entries ++ [(key, value)]).map Prod.fst).Nodup := by
  rw [List.map_append, List.nodup_append]
  refine ⟨nodup, by simp, ?_⟩
  intro a ha b hb
  simp only [List.map_cons, List.map_nil, List.mem_singleton] at hb
  subst hb
  rintro rfl
  apply new
  obtain ⟨entry, mem, rfl⟩ := List.mem_map.1 ha
  exact List.any_eq_true.2 ⟨entry, mem, by simp⟩

def insert (m : OrderedMap α) (key : String) (value : α) : OrderedMap α :=
  if new : m.entries.any (·.1 == key) = true then
    ⟨m.entries.map (write key value), by rw [keys_map_write]; exact m.nodup⟩
  else
    ⟨m.entries ++ [(key, value)], nodup_append_new value m.nodup new⟩

def erase (m : OrderedMap α) (key : String) : OrderedMap α :=
  ⟨m.entries.filter (·.1 != key),
    m.nodup.sublist (List.filter_sublist.map Prod.fst)⟩

def ofEntries (entries : List (String × α)) : OrderedMap α :=
  entries.foldl (fun m (key, value) => m.insert key value) empty

def map (f : α → β) (m : OrderedMap α) : OrderedMap β :=
  ⟨m.entries.map fun (key, value) => (key, f value), by
    rw [List.map_map]
    exact m.nodup⟩

end OrderedMap

end InteractiveFiction
