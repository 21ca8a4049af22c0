import InteractiveFiction.Document.Coercion

/-!
What is found under a key of an object: once some fields have been given values or were dropped, and
where fields without a value are left out (`Fields.present`).
-/

set_option autoImplicit false

namespace InteractiveFiction

namespace Fields

theorem lookup_overwrite {κ α : Type} [DecidableEq κ] (entries : List (κ × α)) (key other : κ)
    (value : α) :
    List.lookup other (entries.map fun (k, v) => if k == key then (k, value) else (k, v)) =
      if other = key then (List.lookup other entries).map fun _ => value
      else List.lookup other entries := by
  induction entries with
  | nil => simp
  | cons entry rest ih =>
    obtain ⟨k, v⟩ := entry
    have head : (if k == key then (k, value) else (k, v)) =
        (k, if k = key then value else v) := by
      by_cases same : k = key <;> simp [same]
    simp only [List.map_cons, head, List.lookup_cons, ih]
    cases here : other == k with
    | true =>
      rw [beq_iff_eq] at here
      subst here
      by_cases same : other = key <;> simp [same]
    | false => rfl

theorem lookup_of_not_has {fields : Fields} {key : String} (h : ¬ fields.has key = true) :
    List.lookup key fields = none := by
  rwa [has, Option.not_isSome_iff_eq_none] at h

theorem lookup_put (fields : Fields) (key other : String) (value : Document) :
    List.lookup other (fields.put key value) =
      if other = key then some value else List.lookup other fields := by
  unfold put
  split
  · rename_i present
    rw [lookup_overwrite]
    by_cases same : other = key
    · subst same
      obtain ⟨old, found⟩ := Option.isSome_iff_exists.1 present
      simp [found]
    · simp [same]
  · rename_i absent
    have none := lookup_of_not_has absent
    rw [List.lookup_append]
    by_cases same : other = key
    · simp [same, none]
    · have differs : (other == key) = false := by simpa using same
      simp [same, List.lookup_cons, differs]

theorem lookup_without (fields : Fields) (key other : String) :
    List.lookup other (Fields.without fields key) =
      if other = key then none else List.lookup other fields := by
  unfold without
  induction fields with
  | nil => simp
  | cons entry rest ih =>
    obtain ⟨k, v⟩ := entry
    by_cases dropped : k = key
    · subst dropped
      rw [List.filter_cons_of_neg (by simp), ih]
      by_cases same : other = k
      · rw [if_pos same, if_pos same]
      · rw [if_neg same, if_neg same, List.lookup_cons, beq_false_of_ne same]
    · rw [List.filter_cons_of_pos (by simpa using dropped), List.lookup_cons, List.lookup_cons, ih]
      cases here : other == k with
      | true =>
        rw [beq_iff_eq] at here
        subst here
        simp only [if_neg dropped]
      | false => rfl

theorem mem_of_has {fields : Fields} {key : String} (h : fields.has key = true) :
    ∃ value, (key, value) ∈ fields := by
  obtain ⟨value, found⟩ := Option.isSome_iff_exists.1 h
  obtain ⟨before, after, all, -⟩ := List.lookup_eq_some_iff.1 found
  exact ⟨value, by simp [all]⟩

/-! ## Fields that may be left out -/

/-- A field if it has a value. -/
def slot (key : String) (value : Option Document) : Fields :=
  match value with
  | some value => [(key, value)]
  | none => []

def present (slots : List (String × Option Document)) : Fields :=
  slots.flatMap fun (key, value) => slot key value

theorem lookup_slot_append (key other : String) (value : Option Document) (fields : Fields) :
    List.lookup other (slot key value ++ fields) =
      if other = key then value.or (List.lookup other fields) else List.lookup other fields := by
  cases value with
  | none => simp [slot]
  | some value =>
    by_cases same : other = key
    · simp [slot, same]
    · have differs : (other == key) = false := by simpa using same
      simp [slot, same, List.lookup_cons, differs]

theorem lookup_eq_none_of_key {α : Type} {entries : List (String × α)} {key : String}
    (new : key ∉ entries.map Prod.fst) : List.lookup key entries = none := by
  rw [List.lookup_eq_none_iff]
  intro entry mem
  have differs : key ≠ entry.1 := fun same => new (List.mem_map.2 ⟨entry, mem, same.symm⟩)
  simpa using differs

theorem put_of_new {fields : Fields} {key : String} (value : Document)
    (new : key ∉ fields.map Prod.fst) : fields.put key value = fields ++ [(key, value)] := by
  unfold put has
  rw [lookup_eq_none_of_key new]
  rfl

theorem lookup_present {slots : List (String × Option Document)}
    (nodup : (slots.map Prod.fst).Nodup) (key : String) :
    List.lookup key (present slots) = (List.lookup key slots).join := by
  induction slots with
  | nil => rfl
  | cons entry slots ih =>
    obtain ⟨own, value⟩ := entry
    rw [List.map_cons, List.nodup_cons] at nodup
    have rest := ih nodup.2
    rw [present, List.flatMap_cons, lookup_slot_append]
    rw [present] at rest
    rw [rest]
    by_cases same : key = own
    · subst same
      simp [lookup_eq_none_of_key nodup.1]
    · have differs : (key == own) = false := by simpa using same
      simp [same, List.lookup_cons, differs]

theorem keys_present_sublist (slots : List (String × Option Document)) :
    ((present slots).map Prod.fst).Sublist (slots.map Prod.fst) := by
  induction slots with
  | nil => exact List.Sublist.refl []
  | cons entry slots ih =>
    obtain ⟨key, value⟩ := entry
    rw [present, List.flatMap_cons, List.map_append, List.map_cons]
    cases value with
    | none => exact ih.cons key
    | some value => exact ih.cons_cons key

end Fields

end InteractiveFiction
