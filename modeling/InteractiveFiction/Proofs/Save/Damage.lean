import InteractiveFiction.Proofs.Save.Keeping
import InteractiveFiction.Proofs.State.Faults
import Mathlib.Data.String.Basic

/-!
Damaged files in a folder of saved games.

Files that hold no document, and documents that lack a slot or its id, are passed over.  Others are
not, and take listings, loads and saves down with them.

The folder is on a device that fails in one way only: it refuses names that are too long.  And the
documents of the files are not nested deeper than can be read; every other text may stand in them.

* `SaveSlot.Garbled`, `FolderStore.Garbled`: the documents and the files that no listing survives.
* `FolderStore.Escapes`: the files that are neither loaded nor reported as corrupt.
* `FolderStore.Deletable`: the slots that can be dropped to make room.
* `FolderStore.withstands_iff`: what a folder withstands, and what it does not.
-/

set_option autoImplicit false

namespace InteractiveFiction

/-! ## Documents -/

/-- The faults of a file that a listing passes over. -/
def Fault.isPassedOver : Fault → Bool
  | .saving _ | .missingKey _ => true
  | _ => false

namespace Result

variable {α : Type}

/-- A failure that no listing passes over. -/
def Raises (r : Result α) : Prop :=
  ∃ fault, r = .error fault ∧ fault.isPassedOver = false

theorem not_raises_ok (a : α) : ¬ Raises (.ok a : Result α) := by
  rintro ⟨fault, failed, -⟩
  cases failed

theorem not_raises_error {fault : Fault} (passedOver : fault.isPassedOver = true) :
    ¬ Raises (.error fault : Result α) := by
  rintro ⟨_, same, raised⟩
  cases same
  rw [passedOver] at raised
  cases raised

/-- A result that is as stores promise: a value, or a fault of saving. -/
def Settled (r : Result α) : Prop :=
  (∃ a, r = .ok a) ∨ ∃ fault, r = .error (.saving fault)

theorem settled_ok (a : α) : Settled (.ok a : Result α) :=
  .inl ⟨a, rfl⟩

theorem settled_saving (fault : SavingFault) : Settled (.error (.saving fault) : Result α) :=
  .inr ⟨fault, rfl⟩

theorem not_settled {fault : Fault} (other : fault.isOfSaving = false) :
    ¬ Settled (.error fault : Result α) := by
  rintro (⟨a, same⟩ | ⟨fault, same⟩)
  · cases same
  · cases same
    cases other

end Result

namespace SaveSlot

/-- The fields of a slot that are numbers, with what stands for them when they are absent. -/
def numbers : List (String × Int) :=
  [("playerLevel", 1), ("playtime", 0), ("storyProgress", 0)]

/-- A slot that is no object, or that has an id and a number that is none. -/
def Garbled (slot : Document) : Prop :=
  (∀ fields, slot ≠ .object fields) ∨
    slot.field? "id" ≠ none ∧
      ∃ number ∈ numbers, ∀ n, (slot.getD number.1 (.int number.2)).toInt ≠ .ok n

end SaveSlot

theorem Document.toInt_cases (d : Document) :
    (∃ n, d.toInt = .ok n) ∨
      ∃ fault, d.toInt = .error fault ∧ fault.isPassedOver = false ∧ ∀ n, d.toInt ≠ .ok n := by
  have slips : Result.FailsIn (fun fault => fault.isPassedOver = false) d.toInt := by
    unfold toInt
    split
    · split
      · exact .pure _
      · exact .throw rfl
      · exact .throw rfl
    · split
      · unfold Number.toInt
        split
        · exact .pure _
        · split
          · exact .throw rfl
          · exact .throw rfl
          · exact .pure _
      · exact .throw rfl
  cases read : d.toInt with
  | ok n => exact .inl ⟨n, rfl⟩
  | error fault => exact .inr ⟨fault, rfl, slips fault read, nofun⟩

namespace SaveSlot

/-- How reading a slot may end: it is read, or its id is absent, or else it is garbled. -/
inductive ReadAs (slot : Document) (r : Result SaveSlot) : Prop where
  | read (read : SaveSlot) (h : r = .ok read) (sound : ¬ Garbled slot)
  | lacking (h : r = .error (.missingKey "id")) (sound : ¬ Garbled slot)
  | garbled (fault : Fault) (h : r = .error fault) (raised : fault.isPassedOver = false)
      (garbled : Garbled slot)

theorem ReadAs.bind {slot : Document} (number : String × Int) (mem : number ∈ numbers)
    (hasId : slot.field? "id" ≠ none) {f : Int → Result SaveSlot}
    (rest : ∀ n, (slot.getD number.1 (.int number.2)).toInt = .ok n → ReadAs slot (f n)) :
    ReadAs slot ((slot.getD number.1 (.int number.2)).toInt >>= f) := by
  rcases (slot.getD number.1 (.int number.2)).toInt_cases with
    ⟨n, isInt⟩ | ⟨fault, failed, raised, none⟩
  · rw [Result.bind_of_ok isInt]
    exact rest n isInt
  · rw [failed]
    exact .garbled fault rfl raised (.inr ⟨hasId, number, mem, none⟩)

theorem ofDocument_readAs (slot : Document) : ReadAs slot (ofDocument slot) := by
  cases slot with
  | object fields =>
    cases has : fields.lookup "id" with
    | none =>
      have lacks : Document.require (.object fields) "id" = .error (.missingKey "id") := by
        rw [Document.require, has]
        rfl
      refine .lacking (by rw [ofDocument, lacks]; rfl) ?_
      rintro (notObject | ⟨hasId, -⟩)
      · exact notObject fields rfl
      · exact hasId has
    | some id =>
      have hasId : Document.require (.object fields) "id" = .ok id := by
        rw [Document.require, has]
        rfl
      have known : Document.field? (.object fields) "id" ≠ none := by
        rw [Document.field?, has]
        exact Option.some_ne_none id
      unfold ofDocument
      rw [Result.bind_of_ok hasId, Result.bind_of_ok (rfl : Document.fields _ _ = .ok fields)]
      refine .bind ("playerLevel", 1) (by simp [numbers]) known fun _ level => ?_
      refine .bind ("playtime", 0) (by simp [numbers]) known fun _ playtime => ?_
      refine .bind ("storyProgress", 0) (by simp [numbers]) known fun _ progress => ?_
      refine .read _ rfl ?_
      rintro (notObject | ⟨-, number, mem, none⟩)
      · exact notObject fields rfl
      · simp only [numbers, List.mem_cons, List.not_mem_nil, or_false] at mem
        rcases mem with rfl | rfl | rfl
        · exact none _ level
        · exact none _ playtime
        · exact none _ progress
  | _ => exact .garbled _ rfl rfl (.inl fun _ same => by cases same)

/-- An archive that is no object, or whose slot is garbled. -/
def GarbledArchive (archive : Document) : Prop :=
  (∀ fields, archive ≠ .object fields) ∨ ∃ slot, archive.field? "slot" = some slot ∧ Garbled slot

theorem ofArchive_raises_iff (archive : Document) :
    (ofArchive archive).Raises ↔ GarbledArchive archive := by
  cases archive with
  | object fields =>
    cases has : fields.lookup "slot" with
    | none =>
      have lacks : ofArchive (.object fields) = .error (.missingKey "slot") := by
        rw [ofArchive, Document.require, has]
        rfl
      rw [lacks]
      refine ⟨fun raises => absurd raises (Result.not_raises_error rfl), ?_⟩
      rintro (notObject | ⟨slot, isSlot, -⟩)
      · exact absurd rfl (notObject fields)
      · rw [Document.field?, has] at isSlot
        cases isSlot
    | some slot =>
      have isSlot : ofArchive (.object fields) = ofDocument slot := by
        rw [ofArchive, Document.require, has]
        rfl
      have garbledIff : GarbledArchive (.object fields) ↔ Garbled slot := by
        constructor
        · rintro (notObject | ⟨other, isOther, garbled⟩)
          · exact absurd rfl (notObject fields)
          · rw [Document.field?, has] at isOther
            exact Option.some.inj isOther ▸ garbled
        · exact fun garbled => .inr ⟨slot, has, garbled⟩
      rw [isSlot, garbledIff]
      cases ofDocument_readAs slot with
      | read read h sound =>
        rw [h]
        exact iff_of_false (Result.not_raises_ok read) sound
      | lacking h sound =>
        rw [h]
        exact iff_of_false (Result.not_raises_error rfl) sound
      | garbled fault h raised garbled => exact iff_of_true ⟨fault, h, raised⟩ garbled
  | _ => exact iff_of_true ⟨_, rfl, rfl⟩ (.inl fun _ same => by cases same)

end SaveSlot

/-! ## Files -/

namespace FolderStore

/-- A file that holds a garbled archive, or an integer that is too long to be read. -/
def Garbled (store : FolderStore) (name : String) : Prop :=
  match store.entries.get? name with
  | some (.document d) => SaveSlot.GarbledArchive d
  | some (.text s) =>
    match Document.read s with
    | .ok d => SaveSlot.GarbledArchive d
    | .error .malformed => False
    | .error (.tooLong _) => True
  | some .folder | none => False

/-- What is read of the slot of a file. -/
def slotIn (store : FolderStore) (name : String) : Result SaveSlot :=
  store.read name >>= SaveSlot.ofArchive

theorem slotIn_raises_iff (store : FolderStore) (name : String) :
    (store.slotIn name).Raises ↔ store.Garbled name := by
  unfold slotIn read Garbled
  cases store.entries.get? name with
  | none => exact iff_of_false (Result.not_raises_error rfl) id
  | some entry =>
    cases entry with
    | folder => exact iff_of_false (Result.not_raises_error rfl) id
    | document d => exact SaveSlot.ofArchive_raises_iff d
    | text s =>
      dsimp only
      cases Document.read s with
      | ok d => exact SaveSlot.ofArchive_raises_iff d
      | error failure =>
        cases failure with
        | malformed => exact iff_of_false (Result.not_raises_error rfl) id
        | tooLong digits => exact iff_of_true ⟨_, rfl, rfl⟩ trivial

/-! ## Listings -/

/-- The slots that are read of files, the others being passed over. -/
def legible (store : FolderStore) (names : List String) : List SaveSlot :=
  names.filterMap fun name => (store.slotIn name).toOption

theorem slotsOf_eq_ok_iff {store : FolderStore} {names : List String} {slots : List SaveSlot} :
    store.slotsOf names = .ok slots ↔
      (∀ name ∈ names, ¬ store.Garbled name) ∧ slots = store.legible names := by
  induction names generalizing slots with
  | nil =>
    refine ⟨fun isEmpty => ⟨nofun, (Except.ok.inj isEmpty).symm⟩, fun ⟨_, isEmpty⟩ => ?_⟩
    rw [isEmpty]
    rfl
  | cons name names ih =>
    have garbledIff := store.slotIn_raises_iff name
    have isIn : store.read name >>= SaveSlot.ofArchive = store.slotIn name := rfl
    rw [List.forall_mem_cons, ← garbledIff, legible, List.filterMap_cons, slotsOf, isIn]
    have passedOver {fault : Fault} (passedOver : fault.isPassedOver = true) :
        store.slotsOf names = .ok slots ↔
          (¬ Result.Raises (.error fault : Result SaveSlot) ∧
            ∀ name ∈ names, ¬ store.Garbled name) ∧ slots = store.legible names := by
      rw [ih, and_iff_right (Result.not_raises_error passedOver)]
    cases store.slotIn name with
    | ok slot =>
      rw [and_iff_right (Result.not_raises_ok slot)]
      constructor
      · intro listed
        obtain ⟨rest, isRest, isAll⟩ := Result.ok_of_bind listed
        obtain ⟨sound, rfl⟩ := ih.1 isRest
        exact ⟨sound, (Except.ok.inj isAll).symm⟩
      · rintro ⟨sound, rfl⟩
        change (store.slotsOf names >>= fun rest => pure (slot :: rest)) = _
        rw [Result.bind_of_ok (ih.2 ⟨sound, rfl⟩)]
        rfl
    | error fault =>
      cases fault with
      | saving fault => exact passedOver rfl
      | missingKey key => exact passedOver rfl
      | _ => exact iff_of_false (fun same => by cases same) fun sound => sound.1.1 ⟨_, rfl, rfl⟩

/-- The names of the files that a listing reads. -/
def slotNames (store : FolderStore) : List String :=
  store.entries.keys.filter fun name => name.endsWith ".json"

theorem list_eq_ok_iff {store : FolderStore} {slots : List SaveSlot} :
    store.list = .ok slots ↔
      ((∀ name ∈ store.slotNames, ¬ store.Garbled name) ∧
        SaveSlot.comparable (store.legible store.slotNames) = true) ∧
      slots = (store.legible store.slotNames).reverse.mergeSort SaveSlot.isAtLeastAsNew := by
  unfold list
  constructor
  · intro listed
    obtain ⟨read, isRead, sorted⟩ := Result.ok_of_bind listed
    obtain ⟨sound, rfl⟩ := slotsOf_eq_ok_iff.1 isRead
    unfold SaveSlot.newestFirst at sorted
    split at sorted
    · rename_i comparable
      exact ⟨⟨sound, comparable⟩, (Except.ok.inj sorted).symm⟩
    · cases sorted
  · rintro ⟨⟨sound, comparable⟩, rfl⟩
    have isRead : store.slots = .ok (store.legible store.slotNames) :=
      slotsOf_eq_ok_iff.2 ⟨sound, rfl⟩
    rw [Result.bind_of_ok isRead, SaveSlot.newestFirst, if_pos comparable]
    rfl

/-! ## Loading -/

/-- A file that holds an integer too long to be read, or whose state shows a fault that loading does
not report as damage. -/
def Escapes (store : FolderStore) (now : Instant) (name : String) : Prop :=
  (∃ s digits, store.entries.get? name = some (.text s) ∧
    Document.read s = .error (.tooLong digits)) ∨
  ∃ archive fault, store.read name = .ok archive ∧
    archive.require "state" >>= GameState.ofDocument now = .error fault ∧
      fault.escapesReading = true

theorem read_cases (store : FolderStore) (name : String) :
    (∃ archive, store.read name = .ok archive) ∨
    (∃ fault, store.read name = .error (.saving fault)) ∨
    ∃ s digits, store.entries.get? name = some (.text s) ∧
      Document.read s = .error (.tooLong digits) := by
  unfold read
  cases store.entries.get? name with
  | none => exact .inr (.inl ⟨_, rfl⟩)
  | some entry =>
    cases entry with
    | folder => exact .inr (.inl ⟨_, rfl⟩)
    | document d => exact .inl ⟨d, rfl⟩
    | text s =>
      cases isRead : Document.read s with
      | ok d =>
        refine .inl ⟨d, ?_⟩
        dsimp only
        rw [isRead]
        rfl
      | error failure =>
        cases failure with
        | malformed =>
          refine .inr (.inl ⟨.unreadable name, ?_⟩)
          dsimp only
          rw [isRead]
          rfl
        | tooLong digits => exact .inr (.inr ⟨s, digits, rfl, isRead⟩)

theorem read_of_tooLong {store : FolderStore} {name s : String} {digits : Nat}
    (found : store.entries.get? name = some (.text s))
    (tooLong : Document.read s = .error (.tooLong digits)) :
    store.read name = .error (.value (.intTooLong digits)) := by
  unfold read
  rw [found]
  dsimp only
  rw [tooLong]
  rfl

theorem escapes_iff_of_read {store : FolderStore} {name : String} {archive : Document}
    (isRead : store.read name = .ok archive) (now : Instant) :
    store.Escapes now name ↔
      ∃ fault, archive.require "state" >>= GameState.ofDocument now = .error fault ∧
        fault.escapesReading = true := by
  constructor
  · rintro (⟨s, digits, found, tooLong⟩ | ⟨other, fault, isOther, shown⟩)
    · rw [read_of_tooLong found tooLong] at isRead
      cases isRead
    · rw [isRead] at isOther
      cases isOther
      exact ⟨fault, shown⟩
  · exact fun ⟨fault, shown⟩ => .inr ⟨archive, fault, isRead, shown⟩

theorem not_escapes_of_reported {store : FolderStore} {name : String} {fault : SavingFault}
    (failed : store.read name = .error (.saving fault)) (now : Instant) :
    ¬ store.Escapes now name := by
  rintro (⟨s, digits, found, tooLong⟩ | ⟨archive, fault, isRead, -⟩)
  · rw [read_of_tooLong found tooLong] at failed
    cases failed
  · rw [failed] at isRead
    cases isRead

theorem ofArchive_settled_iff (now : Instant) (id : String) (archive : Document) :
    (GameState.ofArchive now id archive).Settled ↔
      ¬ ∃ fault, archive.require "state" >>= GameState.ofDocument now = .error fault ∧
        fault.escapesReading = true := by
  have isOfDocument : Result.Read (archive.require "state" >>= GameState.ofDocument now) :=
    .bind (archive.require_read "state") fun state => GameState.ofDocument_read now state
  unfold GameState.ofArchive
  cases isRead : archive.require "state" >>= GameState.ofDocument now with
  | ok state => exact iff_of_true (Result.settled_ok state) nofun
  | error fault =>
    dsimp only
    rcases isOfDocument fault isRead with ofReading | escapes
    · have caught : fault.escapesReading = false := by
        cases fault <;> first | rfl | cases ofReading
      rw [ofReading, if_pos rfl]
      refine iff_of_true (Result.settled_saving _) ?_
      rintro ⟨_, same, escapes⟩
      cases same
      rw [caught] at escapes
      cases escapes
    · obtain ⟨notCaught, notSaving⟩ : fault.isOfReading = false ∧ fault.isOfSaving = false := by
        cases fault <;> first | exact ⟨rfl, rfl⟩ | cases escapes
      rw [notCaught, if_neg Bool.false_ne_true]
      exact iff_of_false (Result.not_settled notSaving) fun none => none ⟨fault, rfl, escapes⟩

theorem fileName_settled (id : String) : (fileName id).Settled := by
  unfold fileName
  split
  · exact Result.settled_saving _
  · exact Result.settled_ok _

theorem load_settled_iff_of_nameable (store : FolderStore) (now : Instant) {id : String}
    (nameable : Nameable id) :
    (store.load now id).Settled ↔ ¬ store.Escapes now (id ++ ".json") := by
  have there := nameable.hasFile store
  unfold load
  rw [Result.bind_of_ok nameable.accepted, Result.bind_of_ok there]
  by_cases known : store.entries.contains (id ++ ".json") = true
  · rw [if_pos known]
    rcases store.read_cases (id ++ ".json") with
      ⟨archive, isRead⟩ | ⟨fault, failed⟩ | ⟨s, digits, found, tooLong⟩
    · rw [Result.bind_of_ok isRead, ofArchive_settled_iff, escapes_iff_of_read isRead]
    · rw [failed]
      exact iff_of_true (Result.settled_saving fault) (not_escapes_of_reported failed now)
    · rw [read_of_tooLong found tooLong]
      refine iff_of_false (Result.not_settled rfl) fun none => none (.inl ?_)
      exact ⟨s, digits, found, tooLong⟩
  · have absent : store.entries.get? (id ++ ".json") = none :=
      Option.eq_none_iff_forall_ne_some.2 fun entry found =>
        known (OrderedMap.contains_iff.2 ⟨entry, found⟩)
    have unread : store.read (id ++ ".json") = .error (.saving (.unreadable (id ++ ".json"))) := by
      rw [read, absent]
      rfl
    rw [if_neg known]
    exact iff_of_true (Result.settled_saving _) (not_escapes_of_reported unread now)

/-- A file that does not escape is loaded, or else its damage is reported.  There is no file under a
name that holds a null byte, and for one under a name that is too long the device fails. -/
theorem load_settled_iff (store : FolderStore) (now : Instant) (id : String) :
    (store.load now id).Settled ↔ (Accepts id → '\x00' ∉ id.toList →
      (id ++ ".json").utf8ByteSize ≤ nameLimit ∧ ¬ store.Escapes now (id ++ ".json")) := by
  rcases fileName_settled id with ⟨name, named⟩ | ⟨fault, refused⟩
  · obtain ⟨accepted, rfl⟩ := fileName_eq_ok_iff.1 named
    rw [imp_iff_right accepted]
    by_cases null : '\x00' ∈ id.toList
    · rw [store.load_of_null accepted null now]
      exact iff_of_true (Result.settled_saving _) fun noNull => absurd null noNull
    · rw [imp_iff_right null]
      by_cases short : (id ++ ".json").utf8ByteSize ≤ nameLimit
      · rw [and_iff_right short]
        exact store.load_settled_iff_of_nameable now ⟨accepted, null, short⟩
      · rw [store.load_of_overlong accepted null short now]
        exact iff_of_false (Result.not_settled rfl) fun sound => short sound.1
  · unfold load
    rw [refused]
    refine iff_of_true (Result.settled_saving fault) fun accepted => ?_
    have named : fileName id = .ok (id ++ ".json") := accepted
    rw [refused] at named
    cases named

/-! ## Making room -/

/-- A slot that can be dropped: its id names a file, or could name one, but no folder. -/
def Deletable (store : FolderStore) (id : Document) : Prop :=
  ∃ key, id = .text key ∧ Nameable key ∧ store.entries.get? (key ++ ".json") ≠ some .folder

theorem delete_ok_iff (store : FolderStore) (id : Document) :
    (∃ deleted, (store.delete id).1 = .ok deleted) ↔ store.Deletable id := by
  unfold delete
  cases named : fileNameOf id with
  | error fault =>
    refine iff_of_false nofun ?_
    rintro ⟨key, rfl, nameable, -⟩
    rw [nameable.fileNameOf] at named
    cases named
  | ok name =>
    obtain ⟨key, rfl, accepted, rfl⟩ := fileNameOf_eq_ok_iff.1 named
    dsimp only
    unfold unlink
    cases checked : checkName nameLimit (key ++ ".json") with
    | error fault =>
      have fails : ¬ store.Deletable (.text key) := by
        rintro ⟨other, same, nameable, -⟩
        cases same
        rw [nameable.checkName] at checked
        cases checked
      cases fault <;> exact iff_of_false nofun fails
    | ok _ =>
      have nameable : Nameable key := nameable_iff.2 ⟨accepted, checked⟩
      have deletable : store.Deletable (.text key) ↔
          store.entries.get? (key ++ ".json") ≠ some .folder := by
        constructor
        · rintro ⟨other, same, -, free⟩
          cases same
          exact free
        · exact fun free => ⟨key, rfl, nameable, free⟩
      rw [deletable]
      dsimp only
      cases found : store.entries.get? (key ++ ".json") with
      | none => exact iff_of_true ⟨false, rfl⟩ nofun
      | some entry =>
        cases entry with
        | folder => exact iff_of_false nofun fun free => free rfl
        | _ => exact iff_of_true ⟨true, rfl⟩ nofun

/-- What is deleted is a file or nothing. -/
theorem delete_ends {store store' : FolderStore} {id : Document} {deleted : Bool}
    (ends : store.delete id = (.ok deleted, store')) : store' = store ∨
      ∃ name, store.entries.get? name ≠ some .folder ∧ store' = ⟨store.entries.erase name⟩ := by
  unfold delete at ends
  split at ends
  · cases ends
  · rename_i name named
    unfold unlink at ends
    split at ends
    · cases ends
    · cases ends
    · cases found : store.entries.get? name with
      | none =>
        rw [found] at ends
        cases ends
        exact .inl rfl
      | some entry =>
        rw [found] at ends
        cases entry with
        | folder => cases ends
        | _ =>
          cases ends
          exact .inr ⟨name, by rw [found]; nofun, rfl⟩

theorem deletable_of_delete {store store' : FolderStore} {id : Document} {deleted : Bool}
    (ends : store.delete id = (.ok deleted, store')) (other : Document) :
    store'.Deletable other ↔ store.Deletable other := by
  rcases delete_ends ends with rfl | ⟨name, notFolder, rfl⟩
  · rfl
  · have folders (file : String) : (store.entries.erase name).get? file = some .folder ↔
        store.entries.get? file = some .folder := by
      constructor
      · exact fun found =>
          OrderedMap.get?_of_mem (List.mem_of_mem_filter (OrderedMap.mem_of_get? found))
      · intro found
        have isOther : file ≠ name := by
          rintro rfl
          exact notFolder found
        have mem := OrderedMap.mem_of_get? found
        exact OrderedMap.get?_of_mem (List.mem_filter.2 ⟨mem, bne_iff_ne.2 isOther⟩)
    unfold Deletable
    simp only [ne_eq, folders]

theorem drop_ok_iff (store : FolderStore) (keep : Document) (slots : List SaveSlot) :
    (store.drop keep slots).1 = .ok () ↔
      ∀ slot ∈ slots, slot.id ≠ keep → store.Deletable slot.id := by
  induction slots generalizing store with
  | nil => exact iff_of_true rfl nofun
  | cons slot slots ih =>
    rw [drop, List.forall_mem_cons]
    by_cases own : slot.id = keep
    · rw [if_pos own, ih, and_iff_right fun other => absurd own other]
    · rw [if_neg own, imp_iff_right own]
      have deletable := store.delete_ok_iff slot.id
      rcases ends : store.delete slot.id with ⟨deleted | deleted, store'⟩
      · rw [ends] at deletable
        refine iff_of_false nofun fun all => ?_
        obtain ⟨_, same⟩ := deletable.2 all.1
        cases same
      · rw [ends] at deletable
        rw [and_iff_right (deletable.1 ⟨deleted, rfl⟩)]
        refine (ih _).trans (forall₃_congr fun other _ _ => deletable_of_delete ends other.id)

theorem makeRoom_ok_iff {written : FolderStore} {slot : SaveSlot}
    (byPlayer : slot.isAutosave = false) :
    (written.makeRoom slot).1 = .ok slot ↔ ∃ slots, written.list = .ok slots ∧
      ∀ old ∈ (slots.filter fun slot => !slot.isAutosave).drop SaveSlot.limit,
        old.id ≠ slot.id → written.Deletable old.id := by
  have beyond : written.slots >>= SaveSlot.overLimit = (written.list >>= fun slots =>
      pure ((slots.filter fun slot => !slot.isAutosave).drop SaveSlot.limit)) := by
    unfold list SaveSlot.overLimit
    rw [bind_assoc]
  unfold makeRoom prune
  rw [byPlayer, if_neg Bool.false_ne_true, beyond]
  cases written.list with
  | error fault => exact iff_of_false nofun (by rintro ⟨slots, same, -⟩; cases same)
  | ok slots =>
    have dropped := written.drop_ok_iff slot.id
      ((slots.filter fun slot => !slot.isAutosave).drop SaveSlot.limit)
    have ends : (∃ slots', (.ok slots : Result (List SaveSlot)) = .ok slots' ∧
        ∀ old ∈ (slots'.filter fun slot => !slot.isAutosave).drop SaveSlot.limit,
          old.id ≠ slot.id → written.Deletable old.id) ↔
        (written.drop slot.id
          ((slots.filter fun slot => !slot.isAutosave).drop SaveSlot.limit)).1 = .ok () := by
      rw [dropped]
      constructor
      · rintro ⟨_, same, deletable⟩
        cases same
        exact deletable
      · exact fun deletable => ⟨slots, rfl, deletable⟩
    rw [ends]
    change Except.map (fun _ => slot) (written.drop slot.id _).1 = .ok slot ↔ _
    cases (written.drop slot.id
        ((slots.filter fun slot => !slot.isAutosave).drop SaveSlot.limit)).1 with
    | error fault => exact iff_of_false nofun nofun
    | ok _ => exact iff_of_true rfl rfl

/-- The file of a save that was written is not garbled, and the others are as they were. -/
theorem garbled_of_write {store written : FolderStore} {slot : SaveSlot} {state : GameState}
    (wrote : store.write slot state = .ok written) :
    (∀ name ∈ written.slotNames, ¬ written.Garbled name) ↔
      ∀ name ∈ store.slotNames, name ≠ slot.id.toKey ++ ".json" → ¬ store.Garbled name := by
  obtain ⟨key, isText, -, -, -, rfl⟩ := write_eq_ok_iff.1 wrote
  rw [isText, show (Document.text key).toKey = key from rfl]
  have others {name : String} (other : name ≠ key ++ ".json") :
      FolderStore.Garbled ⟨store.entries.insert (key ++ ".json")
        (.document (slot.archive state))⟩ name ↔ store.Garbled name := by
    unfold Garbled
    rw [OrderedMap.get?_insert_of_ne store.entries other]
  have own : ¬ FolderStore.Garbled ⟨store.entries.insert (key ++ ".json")
      (.document (slot.archive state))⟩ (key ++ ".json") := by
    unfold Garbled
    rw [OrderedMap.get?_insert_self]
    dsimp only
    rw [← SaveSlot.ofArchive_raises_iff, SaveSlot.ofArchive_archive]
    exact Result.not_raises_ok slot
  unfold slotNames
  simp only [List.mem_filter, OrderedMap.mem_keys_insert]
  constructor
  · intro sound name ⟨mem, isJson⟩ other
    exact (not_congr (others other)).1 (sound name ⟨.inr mem, isJson⟩)
  · intro sound name ⟨mem, isJson⟩
    by_cases isOwn : name = key ++ ".json"
    · exact isOwn ▸ own
    · exact (not_congr (others isOwn)).2 (sound name ⟨mem.resolve_left isOwn, isJson⟩ isOwn)

/-- What a folder withstands, whatever its files hold.  It can be listed exactly if no file is
garbled and the times of its slots have a common order; a slot is loaded or reported exactly if its
file does not escape and the device takes the file's name; and a save that wrote its file returns
its slot exactly if no other file is garbled, the times have a common order, and the slots to drop
can be deleted. -/
theorem withstands_iff (store : FolderStore) :
    ((∃ slots, store.list = .ok slots) ↔
      (∀ name ∈ store.slotNames, ¬ store.Garbled name) ∧
        SaveSlot.comparable (store.legible store.slotNames) = true) ∧
    (∀ slots, store.list = .ok slots → slots.Perm (store.legible store.slotNames)) ∧
    (∀ now id, (store.load now id).Settled ↔ (Accepts id → '\x00' ∉ id.toList →
      (id ++ ".json").utf8ByteSize ≤ nameLimit ∧ ¬ store.Escapes now (id ++ ".json"))) ∧
    ∀ slot state written, slot.isAutosave = false → store.write slot state = .ok written →
      ((written.makeRoom slot).1 = .ok slot ↔
        ((∀ name ∈ store.slotNames, name ≠ slot.id.toKey ++ ".json" → ¬ store.Garbled name) ∧
          SaveSlot.comparable (written.legible written.slotNames) = true) ∧
        ∀ slots, written.list = .ok slots →
          ∀ old ∈ (slots.filter fun slot => !slot.isAutosave).drop SaveSlot.limit,
            old.id ≠ slot.id → written.Deletable old.id) := by
  have lists (store : FolderStore) : (∃ slots, store.list = .ok slots) ↔
      (∀ name ∈ store.slotNames, ¬ store.Garbled name) ∧
        SaveSlot.comparable (store.legible store.slotNames) = true := by
    constructor
    · rintro ⟨slots, listed⟩
      exact (list_eq_ok_iff.1 listed).1
    · exact fun sound => ⟨_, list_eq_ok_iff.2 ⟨sound, rfl⟩⟩
  refine ⟨lists store, fun slots listed => ?_, store.load_settled_iff, ?_⟩
  · rw [(list_eq_ok_iff.1 listed).2]
    exact (List.mergeSort_perm _ _).trans (List.reverse_perm _)
  · intro slot state written byPlayer wrote
    rw [makeRoom_ok_iff byPlayer, ← garbled_of_write wrote, ← lists]
    constructor
    · rintro ⟨slots, listed, deletable⟩
      refine ⟨⟨slots, listed⟩, fun _ same => ?_⟩
      rw [listed] at same
      cases same
      exact deletable
    · rintro ⟨⟨slots, listed⟩, deletable⟩
      exact ⟨slots, listed, deletable slots listed⟩

end FolderStore

namespace Attic

def ada : GameState :=
  .starting 1000000.0 "voyage" "ferry" "pier" "Ada" {}

def slot : SaveSlot :=
  .ofState 1000000.0 "save_a" ada "On the pier" false

/-- One file, which is not of a slot. -/
def withNotes : FolderStore :=
  ⟨(OrderedMap.empty).insert ("notes" ++ ".json") (.document (.object []))⟩

/-- The same with a saved game. -/
def withGame : FolderStore :=
  ⟨withNotes.entries.insert ("save_a" ++ ".json") (.document (slot.archive ada))⟩

theorem wrote : withNotes.write slot ada = .ok withGame :=
  FolderStore.write_eq_ok_iff.2
    ⟨"save_a", rfl, by decide +kernel, by decide +kernel, by decide +kernel, rfl⟩

theorem slotNames_withNotes : withNotes.slotNames = ["notes" ++ ".json"] :=
  List.filter_cons_of_pos (FolderStore.endsWith_fileName "notes")

theorem slotNames_withGame : withGame.slotNames = ["notes" ++ ".json", "save_a" ++ ".json"] := by
  refine List.filter_eq_self.2 fun name mem => ?_
  rcases OrderedMap.mem_keys_insert.1 mem with rfl | mem
  · exact FolderStore.endsWith_fileName "save_a"
  · rw [List.mem_singleton.1 mem]
    exact FolderStore.endsWith_fileName "notes"

theorem legible_withGame : withGame.legible withGame.slotNames = [slot] := by
  rw [slotNames_withGame]
  rfl

theorem withNotes_sound : ∀ name ∈ withNotes.slotNames, ¬ withNotes.Garbled name := by
  have passedOver : withNotes.slotIn ("notes" ++ ".json") = .error (.missingKey "slot") := by
    rfl
  intro name mem
  rw [slotNames_withNotes] at mem
  rw [List.mem_singleton.1 mem, ← FolderStore.slotIn_raises_iff, passedOver]
  exact Result.not_raises_error rfl

end Attic

open Attic in
/-- A file that is not of a slot does not keep a player from saving. -/
theorem save_beside_notes : slot.isAutosave = false ∧ (∃ slots, withNotes.list = .ok slots) ∧
    withNotes.write slot ada = .ok withGame ∧ (withGame.makeRoom slot).1 = .ok slot := by
  obtain ⟨lists, -, -, saves⟩ := FolderStore.withstands_iff withNotes
  refine ⟨rfl, lists.2 ⟨withNotes_sound, ?_⟩, wrote, (saves slot ada _ rfl wrote).2 ⟨⟨?_, ?_⟩, ?_⟩⟩
  · rw [slotNames_withNotes]
    decide +kernel
  · exact fun name mem _ => withNotes_sound name mem
  · rw [legible_withGame]
    decide
  · intro slots listed
    have one := (FolderStore.list_eq_ok_iff.1 listed).2
    rw [legible_withGame, List.reverse_singleton, List.mergeSort_singleton] at one
    rw [one]
    exact fun old mem => absurd mem List.not_mem_nil

/-! ## A folder with damaged files -/

namespace Attic

/-- A slot whose level is a word, and a state whose player has a level beyond every integer. -/
def archive : Document :=
  .object [("slot", .object [("id", "old"), ("playerLevel", "high")]),
    ("state", .object [("id", "voyage"), ("storyId", "ferry"), ("currentSceneId", "pier"),
      ("player", .object [("level", .float (Rounding.ofDecimal false 1 999))])])]

def folder : FolderStore :=
  ⟨(OrderedMap.empty).insert ("old" ++ ".json") (.document archive)⟩

theorem garbled : SaveSlot.Garbled (.object [("id", "old"), ("playerLevel", "high")]) := by
  refine .inr ⟨nofun, ("playerLevel", 1), by simp [SaveSlot.numbers], fun n isInt => ?_⟩
  have failed : (Document.text "high").toInt = .error (.value (.notAnInt "high")) := by
    rfl
  rw [show Document.getD _ "playerLevel" (.int 1) = .text "high" from rfl, failed] at isInt
  cases isInt

end Attic

open Attic in
/-- The folder cannot be listed, its slot is neither loaded nor reported as corrupt, and a save that
wrote its own file fails because of the other one. -/
theorem damaged_folder_fails :
    (¬ ∃ slots, folder.list = .ok slots) ∧ ¬ (folder.load 1000000.0 "old").Settled ∧
      ∃ written, folder.write slot ada = .ok written ∧ (written.makeRoom slot).1 ≠ .ok slot := by
  have isJson : "old" ++ ".json" ∈ folder.slotNames :=
    List.mem_filter.2 ⟨by decide, FolderStore.endsWith_fileName "old"⟩
  have found : folder.entries.get? ("old" ++ ".json") = some (.document archive) :=
    OrderedMap.get?_insert_self _ _ _
  have isGarbled : folder.Garbled ("old" ++ ".json") := by
    unfold FolderStore.Garbled
    rw [found]
    exact .inr ⟨_, rfl, garbled⟩
  have escapes : folder.Escapes 1000000.0 ("old" ++ ".json") := by
    have isRead : folder.read ("old" ++ ".json") = .ok archive := by
      rw [FolderStore.read, found]
      rfl
    exact .inr ⟨archive, .range .infiniteInt, isRead, by decide +kernel, rfl⟩
  obtain ⟨written, wrote⟩ : ∃ written, folder.write slot ada = .ok written :=
    ⟨_, FolderStore.write_eq_ok_iff.2
      ⟨"save_a", rfl, by decide +kernel, by decide +kernel, by decide +kernel, rfl⟩⟩
  refine ⟨?_, ?_, written, wrote, ?_⟩
  · rintro ⟨slots, listed⟩
    exact (FolderStore.list_eq_ok_iff.1 listed).1.1 _ isJson isGarbled
  · rw [FolderStore.load_settled_iff]
    exact fun withstands => (withstands (by decide +kernel) (by decide +kernel)).2 escapes
  · rw [ne_eq, FolderStore.makeRoom_ok_iff rfl]
    rintro ⟨slots, listed, -⟩
    have sound := (FolderStore.garbled_of_write wrote).1 (FolderStore.list_eq_ok_iff.1 listed).1.1
    exact sound _ isJson (by decide +kernel) isGarbled

end InteractiveFiction
