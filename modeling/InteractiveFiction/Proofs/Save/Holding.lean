import InteractiveFiction.Proofs.Save.Games
import InteractiveFiction.Proofs.Save.Keeping
import Mathlib.Data.List.Perm.Basic

/-!
What stores hold, after whatever calls, is games: each under its own id, as it was last saved.

* `MemoryStore.Holds`, `FolderStore.Holds`: the games of a store, in the order in which it reads
  them.
* `MemoryStore.Holds.answer`: a store in memory answers as its games say, whatever the clock did.
* `FolderStore.holds_of_run`: a folder that was empty holds games after any calls.
* `FolderStore.Holds.makeRoom`: which of them are left when room is made.
-/

set_option autoImplicit false

namespace InteractiveFiction

namespace OrderedMap

variable {α : Type}

theorem entries_erase (m : OrderedMap α) (key : String) :
    (m.erase key).entries = m.entries.filter (·.1 != key) := rfl

theorem entries_insert_erase (m : OrderedMap α) (key : String) (value : α) :
    ((m.erase key).insert key value).entries = m.entries.filter (·.1 != key) ++ [(key, value)] := by
  refine entries_insert_of_new value fun mem => ?_
  obtain ⟨entry, left, same⟩ := List.mem_map.1 mem
  have other := (List.mem_filter.1 left).2
  rw [same] at other
  simp at other

/-- Writing in place differs from writing at the end in the order only. -/
theorem insert_perm (m : OrderedMap α) (key : String) (value : α) :
    (m.insert key value).entries.Perm ((m.erase key).insert key value).entries := by
  rw [entries_insert_erase]
  by_cases known : m.entries.any (·.1 == key) = true
  · obtain ⟨entry, mem, same⟩ := List.any_eq_true.1 known
    obtain ⟨before, after, all⟩ := List.append_of_mem mem
    have same : entry.1 = key := by simpa using same
    have nodup := m.nodup
    rw [all, List.map_append, List.map_cons, List.nodup_middle, List.nodup_cons,
      List.mem_append, not_or, same] at nodup
    have others {entries : List (String × α)} (none : key ∉ entries.map Prod.fst) :
        entries.map (write key value) = entries ∧ entries.filter (·.1 != key) = entries := by
      have other (entry : String × α) (mem : entry ∈ entries) : entry.1 ≠ key :=
        fun own => none (List.mem_map.2 ⟨entry, mem, own⟩)
      constructor
      · exact (List.map_congr_left fun entry mem => if_neg (other entry mem)).trans (List.map_id _)
      · exact List.filter_eq_self.2 fun entry mem => by simpa using other entry mem
    obtain ⟨sameBefore, allBefore⟩ := others nodup.1.1
    obtain ⟨sameAfter, allAfter⟩ := others nodup.1.2
    have own : write key value entry = (key, value) := if_pos same
    unfold insert
    rw [dif_pos known]
    dsimp only
    rw [all, List.map_append, List.map_cons, sameBefore, sameAfter, own, List.filter_append,
      List.filter_cons_of_neg (by simp [same]), allBefore, allAfter]
    exact List.perm_middle.trans (List.perm_append_singleton _ _).symm
  · have none (entry : String × α) (mem : entry ∈ m.entries) : entry.1 ≠ key :=
      fun own => known (List.any_eq_true.2 ⟨entry, mem, by simpa using own⟩)
    unfold insert
    rw [dif_neg known, List.filter_eq_self.2 fun entry mem => by simpa using none entry mem]

end OrderedMap

namespace SavedGame

variable {games : List SavedGame}

/-- Games under different ids, as stores have them. -/
def Distinct (games : List SavedGame) : Prop :=
  (games.map id).Nodup

theorem Distinct.nodup (distinct : Distinct games) : games.Nodup :=
  List.Nodup.of_map id distinct

theorem Distinct.eq_of_id (distinct : Distinct games) {a b : SavedGame} (memA : a ∈ games)
    (memB : b ∈ games) (same : a.id = b.id) : a = b :=
  List.inj_on_of_nodup_map distinct memA memB same

theorem Distinct.sublist (distinct : Distinct games) {some : List SavedGame}
    (sublist : some.Sublist games) : Distinct some :=
  List.Nodup.sublist (sublist.map id) distinct

theorem Distinct.put (distinct : Distinct games) (game : SavedGame) :
    Distinct (put games game) := by
  unfold Distinct SavedGame.put
  rw [List.map_append, List.nodup_append]
  refine ⟨distinct.sublist List.filter_sublist, by simp, ?_⟩
  rintro _ mem _ own rfl
  obtain ⟨other, left, same⟩ := List.mem_map.1 mem
  have different := (List.mem_filter.1 left).2
  rw [same, List.mem_singleton.1 own] at different
  simp at different

theorem find?_id {game : SavedGame} (own : ∀ other ∈ games, other.id = game.id → other = game)
    (mem : game ∈ games) : (games.find? fun other => other.id == game.id) = some game := by
  obtain ⟨other, found⟩ := Option.isSome_iff_exists.1 (List.find?_isSome.2
    ⟨game, mem, beq_self_eq_true game.id⟩ : (games.find? fun other => other.id == game.id).isSome)
  rw [found, own other (List.mem_of_find?_eq_some found) (by simpa using List.find?_some found)]

/-- The games that are left when slots are dropped by their ids, all but the one to keep. -/
def dropIds (keep : Option String) (dropped games : List SavedGame) : List SavedGame :=
  games.filter fun game => decide (game.id ∉ dropped.map id ∨ some game.id = keep)

theorem dropIds_nil (keep : Option String) (games : List SavedGame) :
    dropIds keep [] games = games :=
  List.filter_eq_self.2 fun _ _ => decide_eq_true (.inl List.not_mem_nil)

theorem dropIds_cons_of_kept {keep : Option String} {first : SavedGame} (own : some first.id = keep)
    (dropped games : List SavedGame) :
    dropIds keep (first :: dropped) games = dropIds keep dropped games := by
  refine List.filter_congr fun game _ => decide_eq_decide.2 ?_
  rw [List.map_cons, List.mem_cons, ← own, Option.some.injEq]
  tauto

theorem dropIds_cons {keep : Option String} {first : SavedGame} (other : some first.id ≠ keep)
    (dropped games : List SavedGame) : dropIds keep (first :: dropped) games =
      dropIds keep dropped (games.filter fun game => game.id != first.id) := by
  unfold dropIds
  rw [List.filter_filter]
  refine List.filter_congr fun game _ => ?_
  rw [Bool.eq_iff_iff, Bool.and_eq_true, decide_eq_true_iff, decide_eq_true_iff, bne_iff_ne,
    List.map_cons, List.mem_cons]
  constructor
  · rintro (neither | isKept)
    · exact ⟨.inl fun among => neither (.inr among), fun same => neither (.inl same)⟩
    · exact ⟨.inr isKept, fun same => other (same ▸ isKept)⟩
  · rintro ⟨others | isKept, different⟩
    · exact .inl (not_or.2 ⟨different, others⟩)
    · exact .inr isKept

theorem Distinct.of_surplus (distinct : Distinct games) : Distinct (surplus games) := by
  refine List.Nodup.sublist (((List.drop_sublist _ _).trans List.filter_sublist).map id) ?_
  exact ((newestFirst_perm games).map id).nodup_iff.2 distinct

/-- Ids tell games apart: to drop the ids of the surplus is to drop the surplus. -/
theorem Distinct.dropIds_surplus (distinct : Distinct games) (keep : Option String) :
    dropIds keep (surplus games) games = kept keep games := by
  refine List.filter_congr fun game mem => decide_eq_decide.2 (or_congr_left (not_congr ?_))
  constructor
  · intro same
    obtain ⟨other, beyond, same⟩ := List.mem_map.1 same
    exact distinct.eq_of_id (mem_of_mem_surplus beyond).1 mem same ▸ beyond
  · exact fun beyond => List.mem_map.2 ⟨game, beyond, rfl⟩

end SavedGame

/-! ## In memory -/

namespace MemoryStore

/-- The store has these games and nothing else. -/
def Holds (store : MemoryStore) (games : List SavedGame) : Prop :=
  store.archives.entries = games.map fun game => (game.id, game.archive)

namespace Holds

variable {store : MemoryStore} {games : List SavedGame}

theorem empty : ({} : MemoryStore).Holds [] := rfl

theorem distinct (holds : store.Holds games) : SavedGame.Distinct games := by
  have nodup := store.archives.nodup
  rw [holds, List.map_map] at nodup
  exact nodup

theorem get? (holds : store.Holds games) (id : String) :
    store.archives.get? id = (games.find? fun game => game.id == id).map SavedGame.archive := by
  unfold OrderedMap.get?
  rw [holds]
  clear holds
  induction games with
  | nil => rfl
  | cons game games ih =>
    rw [List.map_cons, List.lookup_cons, List.find?_cons, ih, Bool.beq_comm]
    cases game.id == id <;> rfl

theorem slots (holds : store.Holds games) : store.slots = .ok (games.map SavedGame.slot) := by
  unfold MemoryStore.slots OrderedMap.values
  rw [holds, List.map_map]
  exact Result.mapM_map_ok fun game _ => SaveSlot.ofArchive_archive game.slot game.state

theorem list (holds : store.Holds games) :
    store.list = .ok ((SavedGame.newestFirst games).map SavedGame.slot) := by
  unfold MemoryStore.list
  rw [Result.bind_of_ok holds.slots, SavedGame.newestFirst_slots]

theorem write (holds : store.Holds games) (game : SavedGame) :
    (store.write game.id game.archive).Holds (SavedGame.put games game) := by
  unfold Holds MemoryStore.write SavedGame.put
  rw [OrderedMap.entries_insert_erase, holds, List.filter_map, List.map_append]
  rfl

theorem erase (holds : store.Holds games) (id : String) :
    MemoryStore.Holds ⟨store.archives.erase id⟩ (games.filter fun game => game.id != id) := by
  unfold Holds
  rw [OrderedMap.entries_erase, holds, List.filter_map]
  rfl

theorem contains (holds : store.Holds games) (id : String) :
    store.archives.contains id = games.any fun game => game.id == id := by
  unfold OrderedMap.contains
  rw [holds, List.any_map]
  rfl

theorem drop {dropped : List SavedGame} (holds : store.Holds games)
    (among : ∀ game ∈ dropped, game ∈ games) (distinct : SavedGame.Distinct dropped) :
    (store.drop (dropped.map SavedGame.slot)).1 = .ok () ∧
      (store.drop (dropped.map SavedGame.slot)).2.Holds (SavedGame.dropIds none dropped games) := by
  induction dropped generalizing store games with
  | nil =>
    rw [SavedGame.dropIds_nil]
    exact ⟨rfl, holds⟩
  | cons first dropped ih =>
    have known : store.archives.contains first.slot.id.toKey = true := by
      rw [show first.slot.id.toKey = first.id from rfl, holds.contains]
      exact List.any_eq_true.2 ⟨first, among first (by simp), by simp⟩
    have distinct := List.nodup_cons.1 distinct
    rw [List.map_cons, MemoryStore.drop, if_pos known,
      SavedGame.dropIds_cons (Option.some_ne_none _)]
    refine ih (holds.erase first.id) (fun game mem => List.mem_filter.2 ⟨?_, ?_⟩) distinct.2
    · exact among game (List.mem_cons_of_mem first mem)
    · exact bne_iff_ne.2 fun same => distinct.1 (List.mem_map.2 ⟨game, mem, same⟩)

theorem prune (holds : store.Holds games) :
    store.prune.1 = .ok () ∧ store.prune.2.Holds (SavedGame.kept none games) := by
  unfold MemoryStore.prune
  rw [Result.bind_of_ok holds.slots, SavedGame.overLimit_slots,
    ← holds.distinct.dropIds_surplus none]
  exact holds.drop (fun game beyond => (SavedGame.mem_of_mem_surplus beyond).1)
    holds.distinct.of_surplus

theorem save (holds : store.Holds games) (game : SavedGame) :
    (store.save game.slot game.state).1 = .ok game.slot ∧
      (store.save game.slot game.state).2.Holds (SavedGame.saved games game) := by
  have written := holds.write game
  unfold MemoryStore.save SavedGame.saved
  rw [SavedGame.isAutosave_slot]
  cases game.isByPlayer with
  | false => exact ⟨rfl, written⟩
  | true =>
    obtain ⟨pruned, left⟩ := written.prune
    refine ⟨?_, left⟩
    change Except.map (fun _ => game.slot) (store.write game.id game.archive).prune.1 = _
    rw [pruned]
    rfl

theorem load (holds : store.Holds games) (now : Instant) (id : String) :
    store.load now id =
      match games.find? fun game => game.id == id with
      | some game => GameState.ofCopy now id game.archive
      | none => throw (.saving (.slotNotFound id)) := by
  unfold MemoryStore.load
  rw [holds.get?]
  cases games.find? fun game => game.id == id <;> rfl

theorem delete (holds : store.Holds games) (id : String) :
    (store.delete id).1 = games.any (fun game => game.id == id) ∧
      (store.delete id).2.Holds (games.filter fun game => game.id != id) := by
  refine ⟨?_, holds.erase id⟩
  unfold MemoryStore.delete
  rw [holds.get?, ← List.isSome_find?]
  cases games.find? fun game => game.id == id <;> rfl

/-- A store in memory answers as its games say. -/
theorem answer (holds : store.Holds games) (call : StoreCall) :
    (store.answer call).1 = (SavedGame.answer games call).1 ∧
      (store.answer call).2.Holds (SavedGame.answer games call).2 := by
  cases call with
  | save game => exact ⟨congrArg StoreAnswer.saved (holds.save game).1, (holds.save game).2⟩
  | load now id => exact ⟨congrArg StoreAnswer.loaded (holds.load now id), holds⟩
  | list => exact ⟨congrArg StoreAnswer.listed holds.list, holds⟩
  | delete id =>
    exact ⟨congrArg (fun deleted => StoreAnswer.deleted (.ok deleted)) (holds.delete id).1,
      (holds.delete id).2⟩

theorem after (holds : store.Holds games) (calls : List StoreCall) :
    (store.after calls).Holds (SavedGame.after games calls) := by
  induction calls generalizing store games with
  | nil => exact holds
  | cons call calls ih => exact ih (holds.answer call).2

end Holds

end MemoryStore

/-! ## In a folder -/

namespace FolderStore

/-- What cannot be the id of a file is not deleted. -/
theorem delete_of_not_nameable {id : String} (nameless : ¬ Nameable id) (store : FolderStore) :
    ∃ fault, store.delete id = (.error fault, store) := by
  unfold delete
  cases named : fileNameOf id with
  | error fault => exact ⟨fault, rfl⟩
  | ok name =>
    obtain ⟨key, same, accepted, rfl⟩ := fileNameOf_eq_ok_iff.1 named
    cases same
    dsimp only
    unfold unlink
    cases checked : checkName nameLimit (id ++ ".json") with
    | ok _ => exact absurd (nameable_iff.2 ⟨accepted, checked⟩) nameless
    | error fault => cases fault <;> exact ⟨_, rfl⟩

/-- The folder has the files of these games and nothing else. -/
structure Holds (store : FolderStore) (games : List SavedGame) : Prop where
  entries : store.entries.entries =
    games.map fun game => (game.id ++ ".json", .document game.archive)
  nameable : ∀ game ∈ games, Nameable game.id
  writable : ∀ game ∈ games, game.archive.isWritable = true

namespace Holds

variable {store : FolderStore} {games : List SavedGame}

theorem empty : ({} : FolderStore).Holds [] :=
  ⟨rfl, fun _ mem => absurd mem List.not_mem_nil, fun _ mem => absurd mem List.not_mem_nil⟩

theorem distinct (holds : store.Holds games) : SavedGame.Distinct games := by
  have nodup := store.entries.nodup
  rw [holds.entries, List.map_map] at nodup
  refine List.Nodup.of_map (· ++ ".json") ?_
  rw [List.map_map]
  exact nodup

theorem get? (holds : store.Holds games) (id : String) :
    store.entries.get? (id ++ ".json") =
      (games.find? fun game => game.id == id).map fun game => .document game.archive := by
  unfold OrderedMap.get?
  rw [holds.entries]
  clear holds
  induction games with
  | nil => rfl
  | cons game games ih =>
    rw [List.map_cons, List.lookup_cons, List.find?_cons, ih, fileName_beq, Bool.beq_comm]
    cases game.id == id <;> rfl

theorem rearranged {other : FolderStore} (holds : store.Holds games)
    (same : store.Rearranges other) : ∃ games', games'.Perm games ∧ other.Holds games' := by
  have perm := same.symm
  rw [holds.entries] at perm
  obtain ⟨games', entries, perm⟩ : Relation.Comp
      (fun entries games => entries = List.map
        (fun game : SavedGame => (game.id ++ ".json", FolderEntry.document game.archive)) games)
      List.Perm other.entries.entries games := by
    rw [List.eq_map_comp_perm]
    exact perm
  exact ⟨games', perm, entries, fun game mem => holds.nameable game (perm.mem_iff.1 mem),
    fun game mem => holds.writable game (perm.mem_iff.1 mem)⟩

theorem read (holds : store.Holds games) {game : SavedGame} (mem : game ∈ games) :
    store.read (game.id ++ ".json") = .ok game.archive := by
  have found : store.entries.get? (game.id ++ ".json") = some (.document game.archive) := by
    refine OrderedMap.get?_of_mem ?_
    rw [holds.entries]
    exact List.mem_map.2 ⟨game, mem, rfl⟩
  unfold FolderStore.read
  rw [found]
  rfl

theorem slots (holds : store.Holds games) : store.slots = .ok (games.map SavedGame.slot) := by
  have names : (store.entries.keys.filter fun name => name.endsWith ".json") =
      games.map fun game => game.id ++ ".json" := by
    unfold OrderedMap.keys
    rw [holds.entries, List.map_map, List.filter_eq_self.2]
    · rfl
    · intro name mem
      obtain ⟨game, -, rfl⟩ := List.mem_map.1 mem
      exact endsWith_fileName game.id
  have all (some : List SavedGame) (among : ∀ game ∈ some, game ∈ games) :
      store.slotsOf (some.map fun game => game.id ++ ".json") = .ok (some.map SavedGame.slot) := by
    induction some with
    | nil => rfl
    | cons game some ih =>
      have read : (store.read (game.id ++ ".json") >>= SaveSlot.ofArchive) = .ok game.slot := by
        rw [Result.bind_of_ok (holds.read (among game (by simp)))]
        exact SaveSlot.ofArchive_archive game.slot game.state
      have rest := ih fun other mem => among other (List.mem_cons_of_mem game mem)
      rw [List.map_cons, slotsOf, read]
      dsimp only
      rw [Result.bind_of_ok rest]
      rfl
  unfold FolderStore.slots
  rw [names]
  exact all games fun _ mem => mem

theorem list (holds : store.Holds games) :
    store.list = .ok ((SavedGame.newestFirst games).map SavedGame.slot) := by
  unfold FolderStore.list
  rw [Result.bind_of_ok holds.slots, SavedGame.newestFirst_slots]

theorem erase (holds : store.Holds games) (id : String) :
    FolderStore.Holds ⟨store.entries.erase (id ++ ".json")⟩
      (games.filter fun game => game.id != id) := by
  refine ⟨?_, fun game mem => holds.nameable game (List.mem_of_mem_filter mem),
    fun game mem => holds.writable game (List.mem_of_mem_filter mem)⟩
  rw [OrderedMap.entries_erase, holds.entries, List.filter_map]
  simp only [Function.comp_def, bne, fileName_beq]

/-- A game that is written may take any place among the files. -/
theorem write {written : FolderStore} {game : SavedGame} (holds : store.Holds games)
    (wrote : store.write game.slot game.state = .ok written) :
    ∃ games', games'.Perm (SavedGame.put games game) ∧ written.Holds games' := by
  obtain ⟨key, isText, nameable, writable, -, rfl⟩ := write_eq_ok_iff.1 wrote
  obtain rfl : game.id = key := Document.text.inj isText
  have others := holds.erase game.id
  have atEnd : FolderStore.Holds
      ⟨(store.entries.erase (game.id ++ ".json")).insert (game.id ++ ".json")
        (.document game.archive)⟩ (SavedGame.put games game) := by
    refine ⟨?_, fun other mem => ?_, fun other mem => ?_⟩
    · rw [OrderedMap.entries_insert_erase, ← OrderedMap.entries_erase, others.entries,
        SavedGame.put, List.map_append]
      rfl
    · rcases List.mem_append.1 mem with mem | mem
      · exact others.nameable other mem
      · exact List.mem_singleton.1 mem ▸ nameable
    · rcases List.mem_append.1 mem with mem | mem
      · exact others.writable other mem
      · exact List.mem_singleton.1 mem ▸ writable
  exact atEnd.rearranged (OrderedMap.insert_perm _ _ _).symm

theorem delete {id : String} (holds : store.Holds games) (nameable : Nameable id) :
    (store.delete id).1 = .ok (games.any fun game => game.id == id) ∧
      (store.delete id).2.Holds (games.filter fun game => game.id != id) := by
  unfold FolderStore.delete
  rw [nameable.fileNameOf]
  dsimp only
  unfold unlink
  rw [nameable.checkName]
  dsimp only
  rw [holds.get?, ← List.isSome_find?]
  cases found : games.find? fun game => game.id == id with
  | none =>
    refine ⟨rfl, ?_⟩
    rw [List.filter_eq_self.2]
    · exact holds
    · intro game mem
      simpa using List.find?_eq_none.1 found game mem
  | some game => exact ⟨rfl, holds.erase id⟩

theorem drop {dropped : List SavedGame} {keep : String} (holds : store.Holds games)
    (nameable : ∀ game ∈ dropped, Nameable game.id) :
    (store.drop keep (dropped.map SavedGame.slot)).1 = .ok () ∧
      (store.drop keep (dropped.map SavedGame.slot)).2.Holds
        (SavedGame.dropIds (some keep) dropped games) := by
  induction dropped generalizing store games with
  | nil =>
    rw [SavedGame.dropIds_nil]
    exact ⟨rfl, holds⟩
  | cons first dropped ih =>
    obtain ⟨own, others⟩ := List.forall_mem_cons.1 nameable
    rw [List.map_cons, FolderStore.drop, SavedGame.id_slot]
    by_cases isKept : first.id = keep
    · rw [if_pos (congrArg Document.text isKept),
        SavedGame.dropIds_cons_of_kept (congrArg some isKept)]
      exact ih holds others
    · rw [if_neg fun same => isKept (Document.text.inj same),
        SavedGame.dropIds_cons fun same => isKept (Option.some.inj same)]
      obtain ⟨deleted, left⟩ := holds.delete own
      rcases ends : store.delete first.id with ⟨result, rest⟩
      rw [ends] at deleted left
      subst deleted
      exact ih left others

theorem prune (holds : store.Holds games) (keep : String) :
    (store.prune keep).1 = .ok () ∧
      (store.prune keep).2.Holds (SavedGame.kept (some keep) games) := by
  unfold FolderStore.prune
  rw [Result.bind_of_ok holds.slots, SavedGame.overLimit_slots,
    ← holds.distinct.dropIds_surplus (some keep)]
  exact holds.drop fun game beyond =>
    holds.nameable game (SavedGame.mem_of_mem_surplus beyond).1

theorem makeRoom (holds : store.Holds games) (game : SavedGame) :
    (store.makeRoom game.slot).1 = .ok game.slot ∧ (store.makeRoom game.slot).2.Holds
      (if game.isByPlayer then SavedGame.kept (some game.id) games else games) := by
  unfold FolderStore.makeRoom
  rw [SavedGame.isAutosave_slot]
  cases game.isByPlayer with
  | false => exact ⟨rfl, holds⟩
  | true =>
    obtain ⟨pruned, left⟩ := holds.prune game.id
    refine ⟨?_, left⟩
    change Except.map (fun _ => game.slot) (store.prune game.id).1 = _
    rw [pruned]
    rfl

theorem load (holds : store.Holds games) {id : String} (nameable : Nameable id) (now : Instant) :
    store.load now id =
      match games.find? fun game => game.id == id with
      | some game => GameState.ofCopy now id game.archive
      | none => throw (.saving (.slotNotFound id)) := by
  cases found : games.find? fun game => game.id == id with
  | some game =>
    have writable := holds.writable game (List.mem_of_find?_eq_some found)
    refine Eq.trans (load_of_get? nameable ?_ now)
      (GameState.ofCopy_of_writable writable now id).symm
    rw [holds.get?, found]
    rfl
  | none =>
    have unknown : store.entries.contains (id ++ ".json") = false := by
      rw [← Bool.not_eq_true, OrderedMap.contains_iff, holds.get?, found]
      rintro ⟨value, known⟩
      cases known
    have missing := nameable.hasFile store
    rw [unknown] at missing
    unfold FolderStore.load
    rw [Result.bind_of_ok nameable.accepted, Result.bind_of_ok missing,
      if_neg Bool.false_ne_true]

end Holds

theorem holds_of_answers {store next : FolderStore} {call : StoreCall} {answer : StoreAnswer}
    {games : List SavedGame} (holds : store.Holds games)
    (answers : Answers store call answer next) : ∃ games', next.Holds games' := by
  cases answers with
  | @save written files game wrote read =>
    obtain ⟨_, -, inWritten⟩ := holds.write wrote
    obtain ⟨_, -, inFiles⟩ := inWritten.rearranged read
    exact ⟨_, (inFiles.makeRoom game).2⟩
  | refuse failed => exact ⟨games, holds⟩
  | load => exact ⟨games, holds⟩
  | list => exact ⟨games, holds⟩
  | delete id =>
    by_cases nameable : Nameable id
    · exact ⟨_, (holds.delete nameable).2⟩
    · obtain ⟨fault, failed⟩ := store.delete_of_not_nameable nameable
      rw [failed]
      exact ⟨games, holds⟩

/-- A folder that was empty holds games after any calls. -/
theorem holds_of_run {store last : FolderStore} {calls : List StoreCall}
    {answers : List StoreAnswer} {games : List SavedGame} (holds : store.Holds games)
    (run : Run store calls answers last) : ∃ games', last.Holds games' := by
  induction run generalizing games with
  | done => exact ⟨games, holds⟩
  | call one _ ih =>
    obtain ⟨games', next⟩ := holds_of_answers holds one
    exact ih next

end FolderStore

end InteractiveFiction
