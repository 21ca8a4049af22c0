import InteractiveFiction.Proofs.Save.Agreement
import InteractiveFiction.Proofs.State.Writing

/-!
What a player's save leaves.

A save is safe if its slot is listed, among no more slots of players than the limit says, and what
is loaded from it is the state that was saved (`SavedGame.Safe`).  Slots are dropped by their times,
and a clock that was set back makes the new slot an old one: a save is safe exactly if fewer slots
than the limit says have their place before it, and what was saved can be written and is what is
read of it (`SavedGame.player_save_safe_iff`).  If there are more, a store in memory drops the slot
that it returns, and a folder keeps one slot too many.
-/

set_option autoImplicit false

namespace InteractiveFiction

namespace SavedGame

/-- What is read of the document of the saved state is that state. -/
def ReadsBack (game : SavedGame) : Prop :=
  ∀ now, GameState.ofDocument now game.state.toDocument = .ok game.state

/-- What a player may expect after a save that did not fail. -/
structure Safe (game : SavedGame) (listed : Result (List SaveSlot))
    (loaded : Instant → Result GameState) : Prop where
  isListed : ∃ slots, listed = .ok slots ∧ game.slot ∈ slots ∧
    slots.countP (fun slot => !slot.isAutosave) ≤ SaveSlot.limit
  isLoaded : ∀ now, loaded now = .ok game.state

variable {games : List SavedGame} {game : SavedGame}

/-- Of a store that answers for games of which only this one can have its id. -/
theorem safe_iff (own : ∀ other ∈ games, other.id = game.id → other = game)
    {listed : Result (List SaveSlot)} {loaded : Instant → Result GameState}
    (lists : listed = .ok ((newestFirst games).map slot))
    (loads : ∀ now, loaded now =
      match games.find? fun other => other.id == game.id with
      | some other => GameState.ofCopy now game.id other.archive
      | none => throw (.saving (.slotNotFound game.id))) :
    game.Safe listed loaded ↔
      game ∈ games ∧ games.countP isByPlayer ≤ SaveSlot.limit ∧
        game.archive.isWritable = true ∧ game.ReadsBack := by
  have memIff : game.slot ∈ (newestFirst games).map slot ↔ game ∈ games := by
    rw [List.mem_map]
    constructor
    · rintro ⟨other, mem, same⟩
      have mem := (newestFirst_perm games).mem_iff.1 mem
      exact own other mem (Document.text.inj (congrArg SaveSlot.id same)) ▸ mem
    · exact fun mem => ⟨game, (newestFirst_perm games).mem_iff.2 mem, rfl⟩
  have count : ((newestFirst games).map slot).countP (fun slot => !slot.isAutosave) =
      games.countP isByPlayer := by
    rw [List.countP_map, (newestFirst_perm games).countP_eq]
    simp only [Function.comp_def, isAutosave_slot, Bool.not_not]
  have reads (mem : game ∈ games) (now : Instant) : loaded now = .ok game.state ↔
      game.archive.isWritable = true ∧
        GameState.ofDocument now game.state.toDocument = .ok game.state := by
    rw [loads, find?_id own mem]
    exact GameState.ofCopy_eq_ok_iff.trans (and_congr_right fun _ => GameState.ofArchive_eq_ok_iff)
  constructor
  · rintro ⟨⟨slots, isSlots, isListed, within⟩, isLoaded⟩
    obtain rfl := Except.ok.inj (lists.symm.trans isSlots)
    have mem := memIff.1 isListed
    exact ⟨mem, count ▸ within, ((reads mem 0).1 (isLoaded 0)).1,
      fun now => ((reads mem now).1 (isLoaded now)).2⟩
  · rintro ⟨mem, within, writable, readsBack⟩
    exact ⟨⟨_, lists, memIff.2 mem, count ▸ within⟩,
      fun now => (reads mem now).2 ⟨writable, readsBack now⟩⟩

theorem mem_put (games : List SavedGame) (game : SavedGame) : game ∈ put games game := by
  simp [put]

/-! ## Few games -/

theorem surplus_of_few (few : games.length ≤ SaveSlot.limit) : surplus games = [] := by
  refine List.drop_eq_nil_of_le ((List.length_filter_le _ _).trans ?_)
  rwa [(newestFirst_perm games).length_eq]

theorem saved_of_few (distinct : Distinct (games ++ [game]))
    (few : (games ++ [game]).length ≤ SaveSlot.limit) : saved games game = games ++ [game] := by
  have others : games.filter (fun other => other.id != game.id) = games := by
    refine List.filter_eq_self.2 fun other mem => bne_iff_ne.2 fun same => ?_
    unfold Distinct at distinct
    rw [List.map_append, List.nodup_append] at distinct
    exact distinct.2.2 other.id (List.mem_map.2 ⟨other, mem, rfl⟩) game.id (by simp) same
  have isPut : put games game = games ++ [game] := by rw [put, others]
  have all : kept none (games ++ [game]) = games ++ [game] := by
    rw [kept, surplus_of_few few]
    exact List.filter_eq_self.2 fun _ _ => decide_eq_true (.inl List.not_mem_nil)
  unfold saved
  rw [isPut, all, ite_self]

/-- Up to the limit, all that was saved is there. -/
theorem after_saves {more : List SavedGame} (distinct : Distinct (games ++ more))
    (few : (games ++ more).length ≤ SaveSlot.limit) :
    after games (more.map .save) = games ++ more := by
  induction more generalizing games with
  | nil => exact (List.append_nil games).symm
  | cons game more ih =>
    have split : games ++ game :: more = (games ++ [game]) ++ more := by simp
    rw [split] at distinct few ⊢
    rw [← ih distinct few, ← saved_of_few (distinct.sublist (List.sublist_append_left _ _))
      ((List.sublist_append_left _ _).length_le.trans few)]
    rfl

end SavedGame

/-! ## In memory -/

namespace MemoryStore

/-- A store in memory keeps to the limit, but not always to the slot that it returns. -/
theorem Holds.safe_iff {store : MemoryStore} {games : List SavedGame} (holds : store.Holds games)
    {game : SavedGame} (byPlayer : game.isByPlayer = true) :
    game.Safe (store.save game.slot game.state).2.list
        (fun now => (store.save game.slot game.state).2.load now game.id) ↔
      game ∉ SavedGame.surplus (SavedGame.put games game) ∧
        game.archive.isWritable = true ∧ game.ReadsBack := by
  have saved := (holds.save game).2
  rw [SavedGame.saved, if_pos byPlayer] at saved
  have distinct := holds.distinct.put game
  have isPut := SavedGame.mem_put games game
  have own (other : SavedGame) (mem : other ∈ SavedGame.kept none (SavedGame.put games game))
      (same : other.id = game.id) : other = game :=
    distinct.eq_of_id ((SavedGame.kept_sublist _ _).subset mem) isPut same
  rw [SavedGame.safe_iff own saved.list fun now => saved.load now game.id,
    SavedGame.countP_kept_le_iff distinct.nodup, SavedGame.mem_kept_iff]
  simp [isPut]

end MemoryStore

/-! ## In a folder -/

namespace FolderStore

/-- A folder keeps the slot that it returns, but not always to the limit. -/
theorem Holds.safe_iff {files : FolderStore} {games : List SavedGame} (holds : files.Holds games)
    {game : SavedGame} (mem : game ∈ games) (byPlayer : game.isByPlayer = true)
    {left : FolderStore} (same : (files.makeRoom game.slot).2.Rearranges left) :
    game.Safe left.list (fun now => left.load now game.id) ↔
      game ∉ SavedGame.surplus games ∧ game.ReadsBack := by
  have kept := (holds.makeRoom game).2
  rw [if_pos byPlayer] at kept
  have own (other : SavedGame) (mem' : other ∈ games) (same : other.id = game.id) : other = game :=
    holds.distinct.eq_of_id mem' mem same
  have isKept : game ∈ SavedGame.kept (some game.id) games :=
    SavedGame.mem_kept_iff.2 ⟨mem, .inr rfl⟩
  have only : (∀ other ∈ SavedGame.surplus games, some other.id ≠ some game.id) ↔
      game ∉ SavedGame.surplus games := by
    constructor
    · exact fun others beyond => others game beyond rfl
    · intro within other beyond same
      have mem' := (SavedGame.mem_of_mem_surplus beyond).1
      exact within (own other mem' (Option.some.inj same) ▸ beyond)
  obtain ⟨games', perm, isLeft⟩ := kept.rearranged same
  have own' (other : SavedGame) (mem' : other ∈ games') (same : other.id = game.id) :
      other = game :=
    own other ((SavedGame.kept_sublist _ _).subset (perm.mem_iff.1 mem')) same
  rw [SavedGame.safe_iff own' isLeft.list fun now => isLeft.load (holds.nameable game mem) now,
    perm.mem_iff, perm.countP_eq, SavedGame.countP_kept_le_iff holds.distinct.nodup, only]
  simp [isKept, holds.writable game mem]

end FolderStore

/-! ## In either -/

/-- Whatever was saved before, and whatever the clock did: a player's save is safe exactly if fewer
slots of players than the limit says have their place before it, and the state is what is read of
its document.  In memory it must be possible to write the document, too; a folder has written it.
The device of a folder fails in no other way than `FolderStore.write` says. -/
theorem SavedGame.player_save_safe_iff {game : SavedGame} (byPlayer : game.isByPlayer = true) :
    (∀ calls, let store := ({} : MemoryStore).after calls
      (store.save game.slot game.state).1 = .ok game.slot ∧
      ∃ earlier, (store.write game.id game.archive).slots = .ok (earlier ++ [game.slot]) ∧
        (game.Safe (store.save game.slot game.state).2.list
            (fun now => (store.save game.slot game.state).2.load now game.id) ↔
          SaveSlot.ahead earlier game.slot [] < SaveSlot.limit ∧
            game.archive.isWritable = true ∧ game.ReadsBack)) ∧
    ∀ calls answers store, FolderStore.Run {} calls answers store →
      ∀ written, store.write game.slot game.state = .ok written →
        ∀ files, written.Rearranges files →
          (files.makeRoom game.slot).1 = .ok game.slot ∧
          ∃ earlier later, files.slots = .ok (earlier ++ game.slot :: later) ∧
            ∀ left, (files.makeRoom game.slot).2.Rearranges left →
              (game.Safe left.list (fun now => left.load now game.id) ↔
                SaveSlot.ahead earlier game.slot later < SaveSlot.limit ∧ game.ReadsBack) := by
  constructor
  · intro calls
    have holds := MemoryStore.Holds.empty.after calls
    have written := holds.write game
    have distinct := written.distinct.nodup
    refine ⟨(holds.save game).1, _, written.slots.trans (by rw [put, List.map_append]; rfl), ?_⟩
    rw [holds.safe_iff byPlayer]
    rw [put] at distinct ⊢
    rw [mem_surplus_iff distinct byPlayer, Nat.not_le]
    rfl
  · intro calls answers store run written wrote files read
    obtain ⟨_, holds⟩ := FolderStore.holds_of_run .empty run
    obtain ⟨_, perm, inWritten⟩ := holds.write wrote
    obtain ⟨games, perm', inFiles⟩ := inWritten.rearranged read
    have mem : game ∈ games := perm'.mem_iff.2 (perm.mem_iff.2 (mem_put _ game))
    refine ⟨(inFiles.makeRoom game).1, ?_⟩
    obtain ⟨earlier, later, rfl⟩ := List.append_of_mem mem
    refine ⟨_, _, inFiles.slots.trans (by rw [List.map_append, List.map_cons]), ?_⟩
    intro left same
    rw [inFiles.safe_iff mem byPlayer same, mem_surplus_iff inFiles.distinct.nodup byPlayer,
      Nat.not_le]

namespace Voyage

theorem ada_lasting : ada.Lasting where
  player := ⟨⟨0, rfl⟩, fun _ mem => absurd mem List.not_mem_nil⟩
  held := fun _ mem => absurd mem List.not_mem_nil
  settings := ⟨⟨_, rfl⟩, ⟨_, rfl⟩, ⟨_, rfl⟩, ⟨_, rfl⟩⟩

theorem readsBack (token : String) (savedAt : Instant) :
    (savedByPlayer token savedAt).ReadsBack := by
  have wellFormed : ada.WellFormed :=
    GameState.wellFormed_starting _ _ _ (by decide) (by decide) (by decide)
  exact fun now => (GameState.ofDocument_toDocument_iff wellFormed now).2 ada_lasting

end Voyage

open Voyage in
/-- The first save of a player is safe. -/
theorem first_save_safe :
    (savedByPlayer "a" 1000000.0).isByPlayer = true ∧
    (savedByPlayer "a" 1000000.0).Safe
      (({} : MemoryStore).save (savedByPlayer "a" 1000000.0).slot ada).2.list
      (fun now => (({} : MemoryStore).save (savedByPlayer "a" 1000000.0).slot ada).2.load now
        "save_a") ∧
    ∃ written, ({} : FolderStore).write (savedByPlayer "a" 1000000.0).slot ada = .ok written ∧
      (savedByPlayer "a" 1000000.0).Safe
        (written.makeRoom (savedByPlayer "a" 1000000.0).slot).2.list
        fun now => (written.makeRoom (savedByPlayer "a" 1000000.0).slot).2.load now "save_a" := by
  have readsBack := readsBack "a" 1000000.0
  have byPlayer : (savedByPlayer "a" 1000000.0).isByPlayer = true := rfl
  obtain ⟨inMemory, inFolder⟩ := SavedGame.player_save_safe_iff byPlayer
  obtain ⟨-, earlier, isSlots, memorySafe⟩ := inMemory []
  have writable : (savedByPlayer "a" 1000000.0).archive.isWritable = true := by decide +kernel
  obtain ⟨written, wrote⟩ := FolderStore.Holds.empty.write_eq_ok
    (by decide +kernel : FolderStore.Nameable (savedByPlayer "a" 1000000.0).id) writable
  obtain ⟨-, before, after, isRead, folderSafe⟩ :=
    inFolder [] [] {} (.done {}) written wrote written (.refl written)
  refine ⟨byPlayer, memorySafe.2 ⟨?_, writable, readsBack⟩, written, wrote,
    (folderSafe _ (.refl _)).2 ⟨?_, readsBack⟩⟩
  · have alone := (MemoryStore.Holds.empty.write (savedByPlayer "a" 1000000.0)).slots
    obtain rfl : earlier = [] := by simpa [SavedGame.put] using alone.symm.trans isSlots
    decide
  · obtain ⟨files, perm, inWritten⟩ := FolderStore.Holds.empty.write wrote
    obtain rfl : files = [savedByPlayer "a" 1000000.0] := List.perm_singleton.1 perm
    obtain ⟨rfl, rfl⟩ : before = [] ∧ after = [] := by
      simpa [List.singleton_eq_append_iff] using inWritten.slots.symm.trans isRead
    decide

namespace Voyage

/-- Ten saves, one each second. -/
def morning : List SavedGame :=
  [savedByPlayer "0" 1000000.0, savedByPlayer "1" 1000001.0, savedByPlayer "2" 1000002.0,
    savedByPlayer "3" 1000003.0, savedByPlayer "4" 1000004.0, savedByPlayer "5" 1000005.0,
    savedByPlayer "6" 1000006.0, savedByPlayer "7" 1000007.0, savedByPlayer "8" 1000008.0,
    savedByPlayer "9" 1000009.0]

/-- A save after the clock was set back. -/
def setBack : SavedGame :=
  savedByPlayer "a" 999990.0

def memory : MemoryStore :=
  ({} : MemoryStore).after (morning.map .save)

def folder : FolderStore :=
  ({} : FolderStore).after (morning.map .save)

theorem after_morning : SavedGame.after [] (morning.map .save) = morning :=
  SavedGame.after_saves (by unfold SavedGame.Distinct; decide +kernel) (by decide)

theorem holds_memory : memory.Holds morning := by
  have holds := MemoryStore.Holds.empty.after (morning.map .save)
  rwa [after_morning] at holds

theorem holds_folder : ∃ files, files.Perm morning ∧ folder.Holds files := by
  have increasing : StoreCall.Increasing (morning.map .save) :=
    ⟨by decide +kernel, by decide +kernel⟩
  have ordered : ([] ++ StoreCall.games (morning.map .save)).Pairwise
      fun a b : SavedGame => a.time < b.time := increasing.times
  obtain ⟨-, files, perm, holds⟩ := FolderStore.Holds.empty.run (.refl []) ordered
    (by decide +kernel) (FolderStore.run_answers {} (morning.map .save))
  rw [after_morning] at perm
  exact ⟨files, perm, holds⟩

theorem setBack_beyond : setBack ∈ SavedGame.surplus (SavedGame.put morning setBack) := by
  have distinct : (SavedGame.put morning setBack).Nodup := by decide +kernel
  rw [SavedGame.put] at distinct ⊢
  rw [SavedGame.mem_surplus_iff distinct rfl]
  decide +kernel

/-- No two games are of one time, so that it does not matter in which order they are read. -/
theorem setBack_beyond_of_perm {files : List SavedGame}
    (perm : files.Perm (SavedGame.put morning setBack)) : setBack ∈ SavedGame.surplus files := by
  have distinct : (SavedGame.put morning setBack).Pairwise fun a b => a.time ≠ b.time := by
    decide +kernel
  rw [SavedGame.surplus, ← SavedGame.newestFirst_eq_of_perm perm.symm distinct]
  exact setBack_beyond

end Voyage

open Voyage in
/-- A save after the clock was set back returns its slot, but neither store is as it should be. -/
theorem set_back_save_unsafe :
    (memory.save setBack.slot ada).1 = .ok setBack.slot ∧
    ¬ setBack.Safe (memory.save setBack.slot ada).2.list
      (fun now => (memory.save setBack.slot ada).2.load now setBack.id) ∧
    (folder.save setBack.slot ada).1 = .ok setBack.slot ∧
    ¬ setBack.Safe (folder.save setBack.slot ada).2.list
      (fun now => (folder.save setBack.slot ada).2.load now setBack.id) := by
  obtain ⟨files, perm, inFolder⟩ := holds_folder
  obtain ⟨written, wrote⟩ :=
    inFolder.write_eq_ok (by decide +kernel : FolderStore.Nameable setBack.id)
      (by decide +kernel : setBack.archive.isWritable = true)
  obtain ⟨files', isPut, inWritten⟩ := inFolder.write wrote
  have isPut : files'.Perm (SavedGame.put morning setBack) :=
    isPut.trans ((perm.filter _).append_right [setBack])
  have saves : folder.save setBack.slot ada = written.makeRoom setBack.slot := by
    rw [FolderStore.save, show folder.write setBack.slot ada = .ok written from wrote]
  rw [saves]
  refine ⟨(holds_memory.save setBack).1, fun safe => ?_, (inWritten.makeRoom setBack).1,
    fun safe => ?_⟩
  · exact ((holds_memory.safe_iff rfl).1 safe).1 setBack_beyond
  · have mem := isPut.mem_iff.2 (SavedGame.mem_put morning setBack)
    exact ((inWritten.safe_iff mem rfl (.refl _)).1 safe).1 (setBack_beyond_of_perm isPut)

end InteractiveFiction
