import InteractiveFiction.Proofs.OrderedMap
import InteractiveFiction.Proofs.State.Reading
import InteractiveFiction.Save

/-!
What a save makes of the slots of a store.

A save writes one archive and may then drop others, but nothing writes over it: as long as the slot
of a save that did not fail is there, a copy of that archive is loaded (`SaveStore.load_of_save`).
Whatever can be loaded after a save, failed or not, could be loaded before it, or is the game that
was saved (`SaveStore.load_after_save`).
-/

set_option autoImplicit false

namespace InteractiveFiction

/-! ## Pruning only drops -/

namespace MemoryStore

theorem drop_sublist (store : MemoryStore) (slots : List SaveSlot) :
    (store.drop slots).2.archives.entries.Sublist store.archives.entries := by
  induction slots generalizing store with
  | nil => exact .refl _
  | cons slot slots ih =>
    unfold drop
    dsimp only
    split
    · exact (ih _).trans List.filter_sublist
    · exact .refl _

theorem prune_sublist (store : MemoryStore) :
    store.prune.2.archives.entries.Sublist store.archives.entries := by
  unfold prune
  split
  · exact store.drop_sublist _
  · exact .refl _

end MemoryStore

namespace FolderStore

theorem unlink_sublist (store : FolderStore) (name : String) :
    (store.unlink name).2.entries.entries.Sublist store.entries.entries := by
  unfold unlink
  split
  · exact .refl _
  · exact .refl _
  · split
    · exact .refl _
    · exact .refl _
    · exact List.filter_sublist

theorem delete_sublist (store : FolderStore) (id : Document) :
    (store.delete id).2.entries.entries.Sublist store.entries.entries := by
  unfold delete
  split
  · exact .refl _
  · exact store.unlink_sublist _

theorem drop_sublist (store : FolderStore) (keep : Document) (slots : List SaveSlot) :
    (store.drop keep slots).2.entries.entries.Sublist store.entries.entries := by
  induction slots generalizing store with
  | nil => exact .refl _
  | cons slot slots ih =>
    have deleted := store.delete_sublist slot.id
    unfold drop
    split
    · exact ih store
    · split
      · rename_i found
        rw [found] at deleted
        exact (ih _).trans deleted
      · rename_i failed
        rw [failed] at deleted
        exact deleted

theorem prune_sublist (store : FolderStore) (keep : Document) :
    (store.prune keep).2.entries.entries.Sublist store.entries.entries := by
  unfold prune
  split
  · exact store.drop_sublist keep _
  · exact .refl _

end FolderStore

/-! ## Saving and loading -/

theorem SaveSlot.ofArchive_archive (slot : SaveSlot) (state : GameState) :
    ofArchive (slot.archive state) = .ok slot := by
  cases slot
  rfl

theorem GameState.ofArchive_eq_ok_iff {now : Instant} {id : String} {slot : SaveSlot}
    {state loaded : GameState} :
    ofArchive now id (slot.archive state) = .ok loaded ↔
      ofDocument now state.toDocument = .ok loaded := by
  have written : (slot.archive state).require "state" >>= ofDocument now =
      ofDocument now state.toDocument := rfl
  unfold ofArchive
  rw [written]
  cases ofDocument now state.toDocument with
  | error fault => exact ⟨nofun, nofun⟩
  | ok loaded => rfl

namespace GameState

variable {now : Instant} {id : String} {archive : Document} {loaded : GameState}

theorem ofCopy_of_writable (writable : archive.isWritable = true) (now : Instant) (id : String) :
    ofCopy now id archive = ofArchive now id archive :=
  if_pos writable

theorem ofCopy_eq_ok_iff :
    ofCopy now id archive = .ok loaded ↔
      archive.isWritable = true ∧ ofArchive now id archive = .ok loaded := by
  unfold ofCopy
  split
  · rename_i writable
    exact (and_iff_right writable).symm
  · rename_i unwritable
    exact ⟨nofun, fun copied => absurd copied.1 unwritable⟩

end GameState

namespace MemoryStore

theorem save_ends {store store' : MemoryStore} {slot saved : SaveSlot} {state : GameState}
    (ended : store.save slot state = (.ok saved, store')) :
    saved = slot ∧ store'.archives.entries.Sublist
      (store.write slot.id.toKey (slot.archive state)).archives.entries := by
  unfold save at ended
  dsimp only at ended
  split at ended
  · cases ended
    exact ⟨rfl, .refl _⟩
  · have pruned := prune_sublist (store.write slot.id.toKey (slot.archive state))
    rcases ends : prune (store.write slot.id.toKey (slot.archive state)) with ⟨result, rest⟩
    rw [ends] at ended pruned
    cases result with
    | error fault => cases ended
    | ok _ =>
      cases ended
      exact ⟨rfl, pruned⟩

theorem load_of_get? {store : MemoryStore} {id : String} {slot : SaveSlot} {state : GameState}
    (found : store.archives.get? id = some (slot.archive state)) (now : Instant) :
    store.load now id = GameState.ofCopy now id (slot.archive state) := by
  unfold load
  rw [found]
  rfl

end MemoryStore

namespace FolderStore

theorem fileName_beq (id id' : String) : (id ++ ".json" == id' ++ ".json") = (id == id') := by
  rw [Bool.eq_iff_iff, beq_iff_eq, beq_iff_eq]
  exact String.append_left_inj ".json"

theorem endsWith_fileName (id : String) : (id ++ ".json").endsWith ".json" = true := by
  rw [String.endsWith_eq_endsWith_toSlice, String.Slice.endsWith_string_iff]
  simp

/-- Whether a text may name a file of the folder. -/
def Accepts (id : String) : Prop :=
  fileName id = .ok (id ++ ".json")

theorem accepts_iff {id : String} : Accepts id ↔
    id.toList ≠ [] ∧ '/' ∉ id.toList ∧ '\\' ∉ id.toList ∧ ¬ ['.'] <+: id.toList := by
  have named : Accepts id ↔ ¬ (id.isEmpty || id.contains '/' || id.contains '\\' ||
      id.startsWith ".") = true := by
    unfold Accepts fileName
    split
    · rename_i refused
      exact ⟨nofun, fun accepted => absurd refused accepted⟩
    · rename_i accepted
      exact ⟨fun _ => accepted, fun _ => rfl⟩
  rw [named, Bool.or_eq_true, Bool.or_eq_true, Bool.or_eq_true, String.contains_char_eq,
    String.contains_char_eq, String.startsWith_string_iff, decide_eq_true_iff, decide_eq_true_iff,
    not_or, not_or, not_or, and_assoc, and_assoc]
  simp

instance (id : String) : Decidable (Accepts id) :=
  decidable_of_iff _ accepts_iff.symm

theorem fileName_eq_ok_iff {id name : String} :
    fileName id = .ok name ↔ Accepts id ∧ name = id ++ ".json" := by
  unfold Accepts fileName
  split
  · exact ⟨nofun, fun named => nomatch named.1⟩
  · exact ⟨fun named => ⟨rfl, (Except.ok.inj named).symm⟩, fun named => named.2 ▸ rfl⟩

/-- Only a text names a file. -/
theorem fileNameOf_eq_ok_iff {id : Document} {name : String} :
    fileNameOf id = .ok name ↔ ∃ key, id = .text key ∧ Accepts key ∧ name = key ++ ".json" := by
  have unnamed (members : List Document) : fileNameOf.named id members ≠ .ok name := by
    unfold fileNameOf.named
    split <;> nofun
  cases id with
  | text key =>
    exact fileName_eq_ok_iff.trans ⟨fun named => ⟨key, rfl, named⟩, fun ⟨_, same, named⟩ =>
      Document.text.inj same ▸ named⟩
  | list items => exact ⟨fun named => absurd named (unnamed _), nofun⟩
  | object fields => exact ⟨fun named => absurd named (unnamed _), nofun⟩
  | _ =>
    refine ⟨fun named => ?_, nofun⟩
    unfold fileNameOf at named
    dsimp only at named
    split at named <;> cases named

/-! ### Names of files -/

theorem checkName_eq_ok_iff {limit : Nat} {name : String} :
    checkName limit name = .ok () ↔ '\x00' ∉ name.toList ∧ name.utf8ByteSize ≤ limit := by
  have hasNull : name.contains '\x00' = true ↔ '\x00' ∈ name.toList := by
    rw [String.contains_char_eq, decide_eq_true_iff]
  unfold checkName
  split
  · rename_i null
    exact ⟨nofun, fun named => absurd (hasNull.1 null) named.1⟩
  · rename_i noNull
    split
    · exact ⟨nofun, fun named => by omega⟩
    · exact ⟨fun _ => ⟨fun null => noNull (hasNull.2 null), by omega⟩, fun _ => rfl⟩

/-- Whether a file of the folder can have a text for its id. -/
structure Nameable (id : String) : Prop where
  accepted : Accepts id
  noNull : '\x00' ∉ id.toList
  short : (id ++ ".json").utf8ByteSize ≤ nameLimit

theorem nameable_iff {id : String} :
    Nameable id ↔ Accepts id ∧ checkName nameLimit (id ++ ".json") = .ok () := by
  have sameNulls : '\x00' ∈ (id ++ ".json").toList ↔ '\x00' ∈ id.toList := by
    rw [String.toList_append, List.mem_append]
    exact or_iff_left (by decide)
  rw [checkName_eq_ok_iff, sameNulls]
  exact ⟨fun ⟨accepted, noNull, short⟩ => ⟨accepted, noNull, short⟩,
    fun ⟨accepted, noNull, short⟩ => ⟨accepted, noNull, short⟩⟩

instance (id : String) : Decidable (Nameable id) :=
  decidable_of_iff (Accepts id ∧ '\x00' ∉ id.toList ∧ (id ++ ".json").utf8ByteSize ≤ nameLimit)
    ⟨fun ⟨accepted, noNull, short⟩ => ⟨accepted, noNull, short⟩,
      fun ⟨accepted, noNull, short⟩ => ⟨accepted, noNull, short⟩⟩

theorem Nameable.checkName {id : String} (nameable : Nameable id) :
    checkName nameLimit (id ++ ".json") = .ok () :=
  (nameable_iff.1 nameable).2

theorem Nameable.fileNameOf {id : String} (nameable : Nameable id) :
    fileNameOf id = .ok (id ++ ".json") :=
  nameable.accepted

theorem Nameable.hasFile {id : String} (nameable : Nameable id) (store : FolderStore) :
    store.hasFile (id ++ ".json") = .ok (store.entries.contains (id ++ ".json")) := by
  obtain ⟨noNull, -⟩ := checkName_eq_ok_iff.1 nameable.checkName
  unfold FolderStore.hasFile
  rw [if_neg (by rwa [String.contains_char_eq, decide_eq_true_iff]),
    Result.bind_of_ok nameable.checkName]
  rfl

theorem hasFile_of_null (store : FolderStore) {id : String} (null : '\x00' ∈ id.toList) :
    store.hasFile (id ++ ".json") = .ok false := by
  rw [hasFile, if_pos]
  · rfl
  · rw [String.contains_char_eq, decide_eq_true_iff, String.toList_append]
    exact List.mem_append_left _ null

theorem hasFile_of_overlong (store : FolderStore) {id : String} (noNull : '\x00' ∉ id.toList)
    (overlong : ¬ (id ++ ".json").utf8ByteSize ≤ nameLimit) :
    store.hasFile (id ++ ".json") = .error (.device "File name too long") := by
  have noNull : ¬ (id ++ ".json").contains '\x00' = true := by
    rw [String.contains_char_eq, decide_eq_true_iff, String.toList_append, List.mem_append]
    exact not_or.2 ⟨noNull, by decide⟩
  rw [hasFile, if_neg noNull, checkName, if_neg noNull, if_pos (Nat.not_le.1 overlong)]
  rfl

theorem load_of_not_accepted (store : FolderStore) {id : String} (refused : ¬ Accepts id)
    (now : Instant) : store.load now id = .error (.saving (.slotId id)) := by
  have named : fileName id = .error (.saving (.slotId id)) := by
    unfold Accepts fileName at refused
    unfold fileName
    split at refused
    · rename_i hidden
      exact if_pos hidden
    · exact absurd rfl refused
  unfold load
  rw [named]
  rfl

/-- No file has a name that holds a null byte. -/
theorem load_of_null (store : FolderStore) {id : String} (accepted : Accepts id)
    (null : '\x00' ∈ id.toList) (now : Instant) :
    store.load now id = .error (.saving (.slotNotFound id)) := by
  unfold load
  rw [Result.bind_of_ok accepted, Result.bind_of_ok (store.hasFile_of_null null),
    if_neg Bool.false_ne_true]
  rfl

theorem load_of_overlong (store : FolderStore) {id : String} (accepted : Accepts id)
    (noNull : '\x00' ∉ id.toList) (overlong : ¬ (id ++ ".json").utf8ByteSize ≤ nameLimit)
    (now : Instant) : store.load now id = .error (.device "File name too long") := by
  unfold load
  rw [Result.bind_of_ok accepted, store.hasFile_of_overlong noNull overlong]
  rfl

/-- Only what can be named can be there. -/
theorem checkName_of_hasFile {store : FolderStore} {name : String}
    (there : store.hasFile name = .ok true) :
    checkName nameLimit name = .ok () ∧ store.entries.contains name = true := by
  unfold hasFile at there
  split at there
  · cases there
  · obtain ⟨_, checked, known⟩ := Result.ok_of_bind there
    exact ⟨checked, Except.ok.inj known⟩

/-! ### Files -/

theorem write_eq_ok_iff {store written : FolderStore} {slot : SaveSlot} {state : GameState} :
    store.write slot state = .ok written ↔ ∃ key, slot.id = .text key ∧ Nameable key ∧
      (slot.archive state).isWritable = true ∧
      store.entries.get? (key ++ ".json") ≠ some .folder ∧
      written = ⟨store.entries.insert (key ++ ".json") (.document (slot.archive state))⟩ := by
  unfold write
  constructor
  · intro wrote
    obtain ⟨name, named, checks⟩ := Result.ok_of_bind wrote
    obtain ⟨key, isText, accepted, rfl⟩ := fileNameOf_eq_ok_iff.1 named
    obtain ⟨_, checked, stores⟩ := Result.ok_of_bind checks
    dsimp only at stores
    split at stores
    · cases stores
    · rename_i sound
      simp only [Bool.or_eq_true, Bool.not_eq_true', decide_eq_true_iff, not_or, Nat.not_lt,
        Bool.not_eq_false] at sound
      obtain ⟨⟨writable, short⟩, free⟩ := sound
      obtain ⟨noNull, -⟩ := checkName_eq_ok_iff.1 checked
      have nameable : Nameable key :=
        nameable_iff.2 ⟨accepted, checkName_eq_ok_iff.2 ⟨noNull, short⟩⟩
      exact ⟨key, isText, nameable, writable, free, (Except.ok.inj stores).symm⟩
  · rintro ⟨key, isText, nameable, writable, free, rfl⟩
    obtain ⟨noNull, short⟩ := checkName_eq_ok_iff.1 nameable.checkName
    have checked : checkName (nameLimit + 1) (key ++ ".json") = .ok () :=
      checkName_eq_ok_iff.2 ⟨noNull, Nat.le_succ_of_le short⟩
    rw [Result.bind_of_ok (isText ▸ nameable.fileNameOf), Result.bind_of_ok checked]
    dsimp only
    rw [writable, decide_eq_false (Nat.not_lt.2 short), decide_eq_false free]
    rfl

/-- Making room only drops files. -/
theorem makeRoom_sublist (store : FolderStore) (slot : SaveSlot) :
    (store.makeRoom slot).2.entries.entries.Sublist store.entries.entries := by
  unfold makeRoom
  split
  · exact .refl _
  · exact prune_sublist store slot.id

theorem makeRoom_gives {store store' : FolderStore} {slot saved : SaveSlot}
    (ended : store.makeRoom slot = (.ok saved, store')) : saved = slot := by
  unfold makeRoom at ended
  split at ended
  · cases ended
    rfl
  · rcases ends : store.prune slot.id with ⟨result, rest⟩
    rw [ends] at ended
    cases result <;> cases ended
    rfl

theorem save_ends {store store' : FolderStore} {slot saved : SaveSlot} {state : GameState}
    (ended : store.save slot state = (.ok saved, store')) :
    saved = slot ∧ ∃ key, slot.id = .text key ∧ Nameable key ∧
      (slot.archive state).isWritable = true ∧ store'.entries.entries.Sublist
        (store.entries.insert (key ++ ".json") (.document (slot.archive state))).entries := by
  unfold save at ended
  split at ended
  · rename_i written wrote
    obtain ⟨key, isText, nameable, writable, -, rfl⟩ := write_eq_ok_iff.1 wrote
    have left := makeRoom_sublist
      ⟨store.entries.insert (key ++ ".json") (.document (slot.archive state))⟩ slot
    rw [ended] at left
    exact ⟨makeRoom_gives ended, key, isText, nameable, writable, left⟩
  · cases ended

theorem load_of_get? {store : FolderStore} {id : String} {archive : Document}
    (nameable : Nameable id) (found : store.entries.get? (id ++ ".json") = some (.document archive))
    (now : Instant) : store.load now id = GameState.ofArchive now id archive := by
  have known : store.hasFile (id ++ ".json") = .ok true := by
    rw [nameable.hasFile, OrderedMap.contains_iff.2 ⟨_, found⟩]
  have isRead : store.read (id ++ ".json") = .ok archive := by
    unfold read
    rw [found]
    rfl
  unfold load
  rw [Result.bind_of_ok nameable.accepted, Result.bind_of_ok known, if_pos rfl,
    Result.bind_of_ok isRead]

end FolderStore

namespace SaveStore

/-- Whether there is something in a slot. -/
def has (store : SaveStore) (id : String) : Bool :=
  match store.medium with
  | .memory m => m.archives.contains id
  | .folder f => f.entries.contains (id ++ ".json")

theorem load_of_gone {store : SaveStore} {id : String} (gone : ¬ store.has id = true)
    (now : Instant) : ∃ fault, store.load now id = .error fault := by
  unfold has at gone
  unfold load
  split
  · rename_i m isMemory
    rw [isMemory] at gone
    unfold MemoryStore.load
    cases found : m.archives.get? id with
    | none => exact ⟨_, rfl⟩
    | some archive => exact absurd (OrderedMap.contains_iff.2 ⟨archive, found⟩) gone
  · rename_i f isFolder
    rw [isFolder] at gone
    cases loaded : f.load now id with
    | error fault => exact ⟨fault, rfl⟩
    | ok state =>
      obtain ⟨name, named, found⟩ := Result.ok_of_bind loaded
      obtain ⟨-, rfl⟩ := FolderStore.fileName_eq_ok_iff.1 named
      obtain ⟨there, isThere, read⟩ := Result.ok_of_bind found
      cases there with
      | true => exact absurd (FolderStore.checkName_of_hasFile isThere).2 gone
      | false => cases read

theorem load_of_saveAs {store store' : SaveStore} {slot saved : SaveSlot} {state : GameState}
    (ended : store.saveAs slot state = (.ok saved, store')) :
    saved = slot ∧ (store'.has slot.id.toKey = true → ∀ later,
      store'.load later slot.id.toKey =
        GameState.ofCopy later slot.id.toKey (slot.archive state)) := by
  unfold saveAs at ended
  split at ended
  · rename_i m isMemory
    rcases ends : m.save slot state with ⟨result, rest⟩
    rw [ends] at ended
    cases ended
    obtain ⟨same, left⟩ := MemoryStore.save_ends ends
    refine ⟨same, fun kept later => MemoryStore.load_of_get? ?_ later⟩
    exact OrderedMap.get?_of_contains left (OrderedMap.get?_insert_self _ _ _) kept
  · rename_i f isFolder
    rcases ends : f.save slot state with ⟨result, rest⟩
    rw [ends] at ended
    cases ended
    obtain ⟨same, key, isText, nameable, writable, left⟩ := FolderStore.save_ends ends
    rw [isText]
    refine ⟨same, fun kept later => ?_⟩
    have found := OrderedMap.get?_of_contains left (OrderedMap.get?_insert_self _ _ _) kept
    exact (FolderStore.load_of_get? nameable found later).trans
      (GameState.ofCopy_of_writable writable later key).symm

theorem load_of_save {store store' : SaveStore} {now : Instant} {issued issued' : Nat}
    {state : GameState} {name : Document} {autosave : Bool} {slot : SaveSlot}
    (ended : store.save now issued state name autosave = (.ok slot, issued', store'))
    (kept : store'.has slot.id.toKey = true) (later : Instant) :
    store'.load later slot.id.toKey =
      GameState.ofCopy later slot.id.toKey (slot.archive state) := by
  unfold save at ended
  split at ended
  · cases ended
  · generalize (if autosave = true then (SaveSlot.autosaveId state, issued)
      else (Identity.saveSlot (issued + 1), issued + 1)) = identity at ended
    obtain ⟨id, issued'⟩ := identity
    rcases ends : store.saveAs (.ofState now id state name autosave) state with ⟨result, rest⟩
    dsimp only at ended
    rw [ends] at ended
    cases ended
    obtain ⟨rfl, loads⟩ := load_of_saveAs ends
    exact loads kept later

end SaveStore

/-! ## Other slots -/

namespace OrderedMap

variable {α : Type} {m rest : OrderedMap α} {key : String}

/-- What is left under a key of a map of which some entries were dropped. -/
theorem get?_of_sublist (left : rest.entries.Sublist m.entries) (key : String) :
    rest.get? key = none ∨ rest.get? key = m.get? key := by
  cases found : rest.get? key with
  | none => exact .inl rfl
  | some value => exact .inr (get?_of_mem (left.subset (mem_of_get? found))).symm

/-- The same once an entry was written before. -/
theorem get?_after_insert {value : α} (left : rest.entries.Sublist (m.insert key value).entries)
    (other : String) :
    rest.get? other = none ∨ rest.get? other = m.get? other ∨
      other = key ∧ rest.get? other = some value := by
  rcases get?_of_sublist left other with gone | kept
  · exact .inl gone
  · by_cases own : other = key
    · subst own
      exact .inr (.inr ⟨rfl, kept.trans (get?_insert_self m other value)⟩)
    · exact .inr (.inl (kept.trans (get?_insert_of_ne m own value)))

theorem contains_congr (same : rest.get? key = m.get? key) : rest.contains key = m.contains key := by
  rw [Bool.eq_iff_iff, contains_iff, contains_iff, same]

end OrderedMap

/-! ## In memory -/

namespace MemoryStore

variable {store store' : MemoryStore}

theorem load_congr {id : String} (same : store'.archives.get? id = store.archives.get? id)
    (now : Instant) : store'.load now id = store.load now id := by
  unfold load
  rw [same]

theorem save_sublist (store : MemoryStore) (slot : SaveSlot) (state : GameState) :
    (store.save slot state).2.archives.entries.Sublist
      (store.write slot.id.toKey (slot.archive state)).archives.entries := by
  unfold save
  dsimp only
  split
  · exact .refl _
  · exact prune_sublist _

theorem load_after_save (store : MemoryStore) (slot : SaveSlot) (state : GameState) (id : String) :
    (∀ now, (store.save slot state).2.load now id = store.load now id) ∨
      ∀ now loaded, (store.save slot state).2.load now id = .ok loaded →
        GameState.ofArchive now id (slot.archive state) = .ok loaded := by
  have left := store.save_sublist slot state
  have gone (h : (store.save slot state).2.archives.get? id = none) (now : Instant) :
      (store.save slot state).2.load now id = throw (.saving (.slotNotFound id)) := by
    unfold load
    rw [h]
    rfl
  rcases OrderedMap.get?_after_insert left id with nothing | kept | ⟨-, written⟩
  · refine .inr fun now loaded ended => ?_
    rw [gone nothing now] at ended
    cases ended
  · have rest : (store.archives.erase slot.id.toKey).entries.Sublist store.archives.entries :=
      List.filter_sublist
    rcases OrderedMap.get?_of_sublist rest id with erased | same
    · refine .inr fun now loaded ended => ?_
      rw [gone (kept.trans erased) now] at ended
      cases ended
    · exact .inl fun now => load_congr (kept.trans same) now
  · refine .inr fun now loaded ended => ?_
    rw [load_of_get? written] at ended
    exact (GameState.ofCopy_eq_ok_iff.1 ended).2

end MemoryStore

/-! ## In a folder -/

namespace FolderStore

variable {store store' : FolderStore}

theorem load_congr {id : String}
    (same : store'.entries.get? (id ++ ".json") = store.entries.get? (id ++ ".json"))
    (now : Instant) : store'.load now id = store.load now id := by
  by_cases accepted : Accepts id
  · have isRead : store'.read (id ++ ".json") = store.read (id ++ ".json") := by
      unfold read
      rw [same]
    have isThere : store'.hasFile (id ++ ".json") = store.hasFile (id ++ ".json") := by
      unfold hasFile
      rw [OrderedMap.contains_congr same]
    unfold load
    rw [Result.bind_of_ok accepted, Result.bind_of_ok accepted, isThere, isRead]
  · cases named : fileName id with
    | ok name =>
      obtain ⟨accepts, -⟩ := fileName_eq_ok_iff.1 named
      exact absurd accepts accepted
    | error fault =>
      unfold load
      rw [named]
      rfl

/-- What is loaded was found in a file of its own. -/
theorem found_of_load {id : String} {now : Instant} {loaded : GameState}
    (ended : store.load now id = .ok loaded) :
    Nameable id ∧ ∃ entry, store.entries.get? (id ++ ".json") = some entry := by
  obtain ⟨name, named, found⟩ := Result.ok_of_bind ended
  obtain ⟨accepted, rfl⟩ := fileName_eq_ok_iff.1 named
  obtain ⟨there, isThere, read⟩ := Result.ok_of_bind found
  cases there with
  | false => cases read
  | true =>
    obtain ⟨checked, known⟩ := checkName_of_hasFile isThere
    exact ⟨nameable_iff.2 ⟨accepted, checked⟩, OrderedMap.contains_iff.1 known⟩

theorem load_after_save (store : FolderStore) (slot : SaveSlot) (state : GameState) (id : String) :
    (∀ now, (store.save slot state).2.load now id = store.load now id) ∨
      ∀ now loaded, (store.save slot state).2.load now id = .ok loaded →
        GameState.ofArchive now id (slot.archive state) = .ok loaded := by
  unfold save
  cases wrote : store.write slot state with
  | error fault => exact .inl fun now => rfl
  | ok written =>
    obtain ⟨key, -, -, -, -, rfl⟩ := write_eq_ok_iff.1 wrote
    have left := makeRoom_sublist
      ⟨store.entries.insert (key ++ ".json") (.document (slot.archive state))⟩ slot
    rcases OrderedMap.get?_after_insert left (id ++ ".json") with nothing | kept | ⟨-, found⟩
    · refine .inr fun now loaded ended => ?_
      obtain ⟨-, entry, found⟩ := found_of_load ended
      rw [nothing] at found
      cases found
    · exact .inl fun now => load_congr kept now
    · refine .inr fun now loaded ended => ?_
      obtain ⟨nameable, -⟩ := found_of_load ended
      rwa [load_of_get? nameable found] at ended

end FolderStore

/-! ## In any store -/

/-- After a save, whether it failed or not, a slot gives what it gave before, or nothing but the
state that was saved. -/
theorem SaveStore.load_after_save (store : SaveStore) (now : Instant) (issued : Nat)
    (state : GameState) (name : Document) (autosave : Bool) (id : String) :
    (∀ later, (store.save now issued state name autosave).2.2.load later id =
        store.load later id) ∨
      ∀ later loaded, (store.save now issued state name autosave).2.2.load later id = .ok loaded →
        GameState.ofDocument later state.toDocument = .ok loaded := by
  unfold save
  split
  · exact .inl fun later => rfl
  · generalize (if autosave = true then (SaveSlot.autosaveId state, issued)
      else (Identity.saveSlot (issued + 1), issued + 1)) = identity
    obtain ⟨own, issued'⟩ := identity
    dsimp only
    generalize SaveSlot.ofState now own state name autosave = slot
    have archived (later : Instant) (loaded : GameState) :
        GameState.ofDocument later state.toDocument = .ok loaded ↔
          GameState.ofArchive later id (slot.archive state) = .ok loaded :=
      GameState.ofArchive_eq_ok_iff.symm
    simp only [archived]
    unfold saveAs
    split
    · rename_i m isMemory
      have renewed := m.load_after_save slot state id
      unfold load withMedium
      rw [isMemory]
      exact renewed
    · rename_i f isFolder
      have renewed := f.load_after_save slot state id
      unfold load withMedium
      rw [isFolder]
      exact renewed

end InteractiveFiction
