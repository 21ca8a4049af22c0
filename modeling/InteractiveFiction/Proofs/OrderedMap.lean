import InteractiveFiction.OrderedMap
import InteractiveFiction.Proofs.Course

/-!
Ordered maps that are filled entry by entry, and what is found in them once some are dropped.
-/

set_option autoImplicit false

namespace InteractiveFiction

namespace OrderedMap

variable {α β : Type}

theorem eq_of_entries {m n : OrderedMap α} (h : m.entries = n.entries) : m = n := by
  cases m
  cases n
  cases h
  rfl

theorem mem_insert {map : OrderedMap α} {key : String} {value : α} {entry : String × α}
    (mem : entry ∈ (map.insert key value).entries) :
    entry = (key, value) ∨ entry ∈ map.entries := by
  unfold insert at mem
  split at mem
  · obtain ⟨old, was, rfl⟩ := List.mem_map.1 mem
    unfold write
    split
    · exact .inl rfl
    · exact .inr was
  · rcases List.mem_append.1 mem with mem | mem
    · exact .inr mem
    · exact .inl (List.mem_singleton.1 mem)

theorem mem_ofEntries {entries : List (String × α)} {entry : String × α}
    (mem : entry ∈ (ofEntries entries).entries) : entry ∈ entries := by
  have grown : ∀ (entries : List (String × α)) (known : OrderedMap α),
      entry ∈ (entries.foldl (fun m new => m.insert new.1 new.2) known).entries →
        entry ∈ known.entries ∨ entry ∈ entries := by
    intro entries
    induction entries with
    | nil => exact fun known mem => .inl mem
    | cons first rest ih =>
      intro known mem
      rcases ih (known.insert first.1 first.2) mem with old | later
      · rcases mem_insert old with rfl | old
        · exact .inr (by simp)
        · exact .inl old
      · exact .inr (List.mem_cons_of_mem first later)
  rcases grown entries empty mem with none | among
  · cases none
  · exact among

theorem entries_insert_of_new {map : OrderedMap α} {key : String} (value : α)
    (new : key ∉ map.entries.map Prod.fst) :
    (map.insert key value).entries = map.entries ++ [(key, value)] := by
  have unknown : ¬ map.entries.any (·.1 == key) = true := by
    intro known
    obtain ⟨entry, mem, same⟩ := List.any_eq_true.1 known
    exact new (List.mem_map.2 ⟨entry, mem, by simpa using same⟩)
  unfold insert
  rw [dif_neg unknown]

/-- What steps insert that read back the entries of a map, in their order, is that map. -/
theorem foldlM_insert {m : OrderedMap α} {written : String × α → β}
    {step : OrderedMap α → β → Result (OrderedMap α)}
    (reads : ∀ entry ∈ m.entries, ∀ known,
      step known (written entry) = .ok (known.insert entry.1 entry.2)) :
    (m.entries.map written).foldlM step empty = .ok m := by
  refine Result.foldlM_rebuilds (fun _ => eq_of_entries) rfl ?_
  intro known entry rest all
  have mem : entry ∈ m.entries := by
    rw [← all]
    simp
  have new : entry.1 ∉ known.entries.map Prod.fst := by
    have nodup := m.nodup
    rw [← all, List.map_append, List.nodup_append] at nodup
    intro old
    exact nodup.2.2 entry.1 old entry.1 (by simp) rfl
  exact ⟨_, reads entry mem known, entries_insert_of_new entry.2 new⟩

/-! ## Finding -/

theorem mem_of_get? {m : OrderedMap α} {key : String} {value : α} (h : m.get? key = some value) :
    (key, value) ∈ m.entries := by
  obtain ⟨before, after, all, -⟩ := List.lookup_eq_some_iff.1 h
  rw [all]
  simp

theorem get?_of_mem {m : OrderedMap α} {key : String} {value : α} (h : (key, value) ∈ m.entries) :
    m.get? key = some value := by
  obtain ⟨before, after, all⟩ := List.append_of_mem h
  refine List.lookup_eq_some_iff.2 ⟨before, after, all, fun entry mem => ?_⟩
  have nodup := m.nodup
  rw [all, List.map_append, List.nodup_append] at nodup
  have other := nodup.2.2 entry.1 (List.mem_map_of_mem mem) key (by simp)
  simpa using Ne.symm other

theorem contains_iff {m : OrderedMap α} {key : String} :
    m.contains key = true ↔ ∃ value, m.get? key = some value := by
  constructor
  · intro known
    obtain ⟨entry, mem, same⟩ := List.any_eq_true.1 known
    obtain rfl : entry.1 = key := by simpa using same
    exact ⟨entry.2, get?_of_mem mem⟩
  · rintro ⟨value, found⟩
    exact List.any_eq_true.2 ⟨(key, value), mem_of_get? found, by simp⟩

theorem get?_insert_self (m : OrderedMap α) (key : String) (value : α) :
    (m.insert key value).get? key = some value := by
  apply get?_of_mem
  unfold insert
  split
  · rename_i known
    obtain ⟨entry, mem, same⟩ := List.any_eq_true.1 known
    refine List.mem_map.2 ⟨entry, mem, ?_⟩
    unfold write
    rw [if_pos (by simpa using same)]
  · simp

theorem get?_insert_of_ne (m : OrderedMap α) {key other : String} (different : other ≠ key)
    (value : α) : (m.insert key value).get? other = m.get? other := by
  have writes (entries : List (String × α)) :
      (entries.map (write key value)).lookup other = entries.lookup other := by
    induction entries with
    | nil => rfl
    | cons entry entries ih =>
      rw [List.map_cons, List.lookup_cons, List.lookup_cons, write_fst, ih]
      by_cases own : entry.1 = key
      · rw [own, beq_false_of_ne different]
      · rw [write, if_neg own]
  unfold get? insert
  split
  · exact writes m.entries
  · dsimp only
    rw [List.lookup_append, List.lookup_cons, beq_false_of_ne different, List.lookup_nil,
      Option.or_none]

section Changed

variable {m : OrderedMap α} {key other : String}

theorem contains_insert_self (m : OrderedMap α) (key : String) (value : α) :
    (m.insert key value).contains key = true :=
  contains_iff.2 ⟨value, get?_insert_self m key value⟩

theorem contains_insert (held : m.contains other = true) (key : String) (value : α) :
    (m.insert key value).contains other = true := by
  by_cases same : other = key
  · rw [same]
    exact contains_insert_self m key value
  · obtain ⟨old, found⟩ := contains_iff.1 held
    exact contains_iff.2 ⟨old, by rw [get?_insert_of_ne m same, found]⟩

theorem get?_erase (m : OrderedMap α) (key other : String) :
    (m.erase key).get? other = if key = other then none else m.get? other := by
  refine Option.ext fun value => ?_
  constructor
  · intro found
    obtain ⟨mem, different⟩ := List.mem_filter.1 (mem_of_get? found)
    rw [if_neg (Ne.symm (by simpa using different))]
    exact get?_of_mem mem
  · intro found
    split at found
    · cases found
    · rename_i different
      exact get?_of_mem (List.mem_filter.2 ⟨mem_of_get? found, by simpa using Ne.symm different⟩)

theorem contains_erase (held : m.contains other = true) (different : other ≠ key) :
    (m.erase key).contains other = true := by
  obtain ⟨value, found⟩ := contains_iff.1 held
  exact contains_iff.2 ⟨value, by rw [get?_erase, if_neg (Ne.symm different), found]⟩

end Changed

theorem mem_keys_insert {m : OrderedMap α} {key other : String} {value : α} :
    other ∈ (m.insert key value).keys ↔ other = key ∨ other ∈ m.keys := by
  have mem_keys_iff (m : OrderedMap α) (key : String) :
      key ∈ m.keys ↔ ∃ value, m.get? key = some value := by
    constructor
    · intro known
      obtain ⟨entry, mem, rfl⟩ := List.mem_map.1 known
      exact ⟨entry.2, get?_of_mem mem⟩
    · rintro ⟨value, found⟩
      exact List.mem_map.2 ⟨_, mem_of_get? found, rfl⟩
  rw [mem_keys_iff, mem_keys_iff]
  by_cases own : other = key
  · rw [own]
    exact iff_of_true ⟨value, get?_insert_self m key value⟩ (.inl rfl)
  · rw [get?_insert_of_ne m own, or_iff_right own]

/-- What is found does not depend on the order of the entries. -/
theorem get?_of_perm {m n : OrderedMap α} (perm : m.entries.Perm n.entries) (key : String) :
    m.get? key = n.get? key := by
  refine Option.ext fun value => ⟨fun found => ?_, fun found => ?_⟩
  · exact get?_of_mem (perm.mem_iff.1 (mem_of_get? found))
  · exact get?_of_mem (perm.mem_iff.2 (mem_of_get? found))

/-- What is left of a map under a key is what was there. -/
theorem get?_of_contains {m rest : OrderedMap α} {key : String} {value : α}
    (left : rest.entries.Sublist m.entries) (was : m.get? key = some value)
    (known : rest.contains key = true) : rest.get? key = some value := by
  obtain ⟨value', found⟩ := contains_iff.1 known
  have same := get?_of_mem (left.subset (mem_of_get? found))
  rw [was] at same
  cases same
  exact found

/-! ## Without some keys -/

/-- The entries of a map but for those of some keys. -/
def without (m : OrderedMap α) (keys : List String) : OrderedMap α :=
  ⟨m.entries.filter fun entry => decide (entry.1 ∉ keys),
    m.nodup.sublist (List.filter_sublist.map Prod.fst)⟩

theorem without_nil (m : OrderedMap α) : m.without [] = m := by
  apply eq_of_entries
  simp [without]

theorem without_erase (m : OrderedMap α) (key : String) (keys : List String) :
    (m.erase key).without keys = m.without (key :: keys) := by
  have twice : ((m.entries.filter (·.1 != key)).filter fun entry => decide (entry.1 ∉ keys)) =
      m.entries.filter fun entry => decide (entry.1 ∉ key :: keys) := by
    rw [List.filter_filter]
    refine List.filter_congr fun entry _ => ?_
    simp only [List.mem_cons, not_or, Bool.decide_and, bne, Bool.and_comm, decide_not]
    rfl
  exact eq_of_entries twice

/-- What is written under one of the keys does not show. -/
theorem without_insert {m : OrderedMap α} {key : String} {keys : List String} (among : key ∈ keys)
    (value : α) : (m.insert key value).without keys = m.without keys := by
  apply eq_of_entries
  unfold insert
  split
  · have same : ∀ entries : List (String × α),
        (entries.map (write key value)).filter (fun entry => decide (entry.1 ∉ keys)) =
          entries.filter fun entry => decide (entry.1 ∉ keys) := by
      intro entries
      induction entries with
      | nil => rfl
      | cons entry entries ih =>
        rw [List.map_cons, List.filter_cons, List.filter_cons, write_fst, ih]
        by_cases own : entry.1 = key
        · simp [own, among]
        · rw [write, if_neg own]
    exact same m.entries
  · simp [without, among]

/-- Neither does what steps write that each write under one of the keys. -/
theorem without_foldl {step : OrderedMap α → β → OrderedMap α} {items : List β}
    {keys : List String}
    (each : ∀ m, ∀ item ∈ items, (step m item).without keys = m.without keys) (m : OrderedMap α) :
    (items.foldl step m).without keys = m.without keys := by
  induction items generalizing m with
  | nil => rfl
  | cons item items ih =>
    rw [List.foldl_cons, ih fun m other mem => each m other (List.mem_cons_of_mem item mem)]
    exact each m item (by simp)

/-- The keys of some values are those of no others. -/
theorem entries_without {m : OrderedMap α} {gone : α → Bool} {name : α → String}
    (own : ∀ entry ∈ m.entries, gone entry.2 = true → entry.1 = name entry.2) :
    (m.without ((m.values.filter gone).map name)).entries =
      m.entries.filter fun entry => !gone entry.2 := by
  refine List.filter_congr fun entry mem => ?_
  have among : entry.1 ∈ (m.values.filter gone).map name ↔ gone entry.2 = true := by
    constructor
    · intro known
      obtain ⟨value, isGone, same⟩ := List.mem_map.1 known
      obtain ⟨isValue, isGone⟩ := List.mem_filter.1 isGone
      obtain ⟨other, mem', rfl⟩ := List.mem_map.1 isValue
      have key : other.1 = entry.1 := (own other mem' isGone).trans same
      have found : m.get? entry.1 = some other.2 := by
        rw [← key]
        exact get?_of_mem mem'
      rw [get?_of_mem mem] at found
      rwa [Option.some.inj found]
    · intro isGone
      refine List.mem_map.2 ⟨entry.2, ?_, (own entry mem isGone).symm⟩
      exact List.mem_filter.2 ⟨List.mem_map_of_mem mem, isGone⟩
  simp [among]

end OrderedMap

end InteractiveFiction
