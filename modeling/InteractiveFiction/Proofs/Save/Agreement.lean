import InteractiveFiction.Proofs.Save.History

/-!
Stores in memory and in a folder give the same answers.

As long as each save is later than those before it, no two slots are of the same time, and the order
in which a folder gives its files does not show; and a slot that was just written is the newest, so
that it is not the one to drop.

* `StoreCall.Feasible`: what a folder can do at all, and a store in memory can do anyway.
* `FolderStore.Holds.answers`, `Holds.answers_apart`: one call of a folder that is feasible, as its
  games say, and one that is not.
* `FolderStore.answers_eq_memory`: whole runs of both stores, which agree exactly if all calls are
  feasible.
* `infeasible_calls_tell_apart`: calls that are not, of names that no file has and of a number that
  is too long for a file.
-/

set_option autoImplicit false

namespace InteractiveFiction

namespace StoreCall

/-- Each save, to the microsecond, is later than those before it. -/
structure Increasing (calls : List StoreCall) : Prop where
  dated : ∀ game ∈ games calls, Timestamp.Dated (Timestamp.microseconds game.savedAt)
  ordered : (games calls).Pairwise fun a b =>
    Timestamp.microseconds a.savedAt < Timestamp.microseconds b.savedAt

/-- The slot that a call is about. -/
def id? : StoreCall → Option String
  | .save game => some game.id
  | .load _ id | .delete id => some id
  | .list => none

/-- Whether a folder takes the id of a call for that of a slot. -/
def Accepted (call : StoreCall) : Prop :=
  ∀ id ∈ call.id?, FolderStore.Accepts id

instance (call : StoreCall) : Decidable call.Accepted :=
  inferInstanceAs (Decidable (∀ id ∈ call.id?, FolderStore.Accepts id))

/-- Whether a folder can do what a call asks for.  What is saved or deleted must have an id that
names a file, and what is saved must be possible to write.  To ask for a file that no folder can
have, as its name holds a null byte, does no harm; only the length of a name does. -/
def Feasible : StoreCall → Prop
  | .save game => FolderStore.Nameable game.id ∧ game.archive.isWritable = true
  | .load _ id => FolderStore.Accepts id ∧
      ('\x00' ∉ id.toList → (id ++ ".json").utf8ByteSize ≤ FolderStore.nameLimit)
  | .list => True
  | .delete id => FolderStore.Nameable id

instance : (call : StoreCall) → Decidable call.Feasible
  | .save game =>
    inferInstanceAs (Decidable (FolderStore.Nameable game.id ∧ game.archive.isWritable = true))
  | .load _ id => inferInstanceAs (Decidable (FolderStore.Accepts id ∧
      ('\x00' ∉ id.toList → (id ++ ".json").utf8ByteSize ≤ FolderStore.nameLimit)))
  | .list => inferInstanceAs (Decidable True)
  | .delete id => inferInstanceAs (Decidable (FolderStore.Nameable id))

theorem Increasing.times {calls : List StoreCall} (increasing : Increasing calls) :
    (games calls).Pairwise fun a b => a.time < b.time :=
  increasing.ordered.imp_of_mem fun memA memB before =>
    Timestamp.ofMicroseconds_lt (increasing.dated _ memA) (increasing.dated _ memB) before

end StoreCall

namespace SavedGame

variable {games files : List SavedGame}

def answers (games : List SavedGame) : List StoreCall → List StoreAnswer
  | [] => []
  | call :: calls => (answer games call).1 :: answers (answer games call).2 calls

theorem answer_sublist (games : List SavedGame) (call : StoreCall) :
    (answer games call).2.Sublist (games ++ StoreCall.games [call]) := by
  cases call with
  | save game =>
    exact (saved_sublist games game).trans (List.filter_sublist.append_right [game])
  | delete id => exact List.filter_sublist.trans (List.sublist_append_left games [])
  | load now id => exact List.sublist_append_left games []
  | list => exact List.sublist_append_left games []

/-- What is ordered in all is so up to the answer of the first call, and after it. -/
theorem ordered_cons {call : StoreCall} {calls : List StoreCall}
    (ordered : (games ++ StoreCall.games (call :: calls)).Pairwise fun a b => a.time < b.time) :
    ((games ++ StoreCall.games [call]).Pairwise fun a b => a.time < b.time) ∧
      ((answer games call).2 ++ StoreCall.games calls).Pairwise fun a b => a.time < b.time := by
  have split : StoreCall.games (call :: calls) = StoreCall.games [call] ++ StoreCall.games calls :=
    StoreCall.games_append [call] calls
  rw [split, ← List.append_assoc] at ordered
  exact ⟨ordered.sublist (List.sublist_append_left _ _),
    ordered.sublist ((answer_sublist games call).append_right _)⟩

/-! ## Games in another order -/

theorem find?_perm (perm : files.Perm games) (distinct : Distinct games) (id : String) :
    (files.find? fun game => game.id == id) = games.find? fun game => game.id == id := by
  cases found : games.find? fun game => game.id == id with
  | some game =>
    obtain rfl : game.id = id := by simpa using List.find?_some found
    have mem := List.mem_of_find?_eq_some found
    exact find?_id (fun other mem' same => distinct.eq_of_id (perm.mem_iff.1 mem') mem same)
      (perm.mem_iff.2 mem)
  | none =>
    refine List.find?_eq_none.2 fun game mem => ?_
    exact List.find?_eq_none.1 found game (perm.mem_iff.1 mem)

theorem newestFirst_perm_eq (perm : files.Perm games)
    (ordered : games.Pairwise fun a b => a.time < b.time) :
    newestFirst files = newestFirst games :=
  (newestFirst_eq_of_perm perm.symm (ordered.imp ne_of_lt)).symm

/-- The newest game is never beyond the limit. -/
theorem not_mem_surplus_of_newest {game : SavedGame} (byPlayer : game.isByPlayer = true)
    (ordered : (games ++ [game]).Pairwise fun a b => a.time < b.time) :
    game ∉ surplus (games ++ [game]) := by
  have isNew : game ∉ games := by
    intro mem
    exact absurd ((List.pairwise_append.1 ordered).2.2 game mem game (by simp)) (lt_irrefl _)
  rw [surplus, newestFirst_of_ordered (ordered.imp le_of_lt), List.reverse_append]
  change game ∉ ((game :: games.reverse).filter isByPlayer).drop SaveSlot.limit
  rw [List.filter_cons_of_pos byPlayer, SaveSlot.limit, List.drop_succ_cons]
  intro beyond
  exact isNew (List.mem_reverse.1 (List.mem_of_mem_filter (List.mem_of_mem_drop beyond)))

/-- To keep the newest game by its id is to keep what is kept anyway. -/
theorem kept_perm_of_newest {game : SavedGame} (byPlayer : game.isByPlayer = true)
    (distinct : Distinct (games ++ [game])) (perm : files.Perm (games ++ [game]))
    (ordered : (games ++ [game]).Pairwise fun a b => a.time < b.time) :
    (kept (some game.id) files).Perm (kept none (games ++ [game])) := by
  have same : surplus files = surplus (games ++ [game]) := by
    rw [surplus, surplus, newestFirst_perm_eq perm ordered]
  have within := not_mem_surplus_of_newest byPlayer ordered
  have all : kept (some game.id) files = files.filter fun other =>
      decide (other ∉ surplus (games ++ [game]) ∨ some other.id = none) := by
    rw [kept, same]
    refine List.filter_congr fun other mem => decide_eq_decide.2 ⟨?_, ?_⟩
    · rintro (isWithin | own)
      · exact .inl isWithin
      · exact .inl (distinct.eq_of_id (perm.mem_iff.1 mem) (by simp) (Option.some.inj own) ▸ within)
    · rintro (isWithin | none)
      · exact .inl isWithin
      · cases none
  rw [all]
  exact perm.filter _

end SavedGame

namespace MemoryStore

theorem Holds.answers {store : MemoryStore} {games : List SavedGame} (holds : store.Holds games)
    (calls : List StoreCall) : store.answers calls = SavedGame.answers games calls := by
  induction calls generalizing store games with
  | nil => rfl
  | cons call calls ih =>
    obtain ⟨same, next⟩ := holds.answer call
    rw [MemoryStore.answers, SavedGame.answers, same, ih next]

end MemoryStore

namespace FolderStore

theorem Holds.write_eq_ok {store : FolderStore} {files : List SavedGame} (holds : store.Holds files)
    {game : SavedGame} (nameable : Nameable game.id) (writable : game.archive.isWritable = true) :
    ∃ written, store.write game.slot game.state = .ok written := by
  refine ⟨_, write_eq_ok_iff.2 ⟨game.id, rfl, nameable, writable, ?_, rfl⟩⟩
  rw [holds.get?]
  cases files.find? fun other => other.id == game.id <;> nofun

/-- A folder of saved games has none under an id that names no file. -/
theorem Holds.find?_of_not_nameable {store : FolderStore} {files : List SavedGame}
    (holds : store.Holds files) {id : String} (nameless : ¬ Nameable id) :
    files.find? (fun game => game.id == id) = none :=
  List.find?_eq_none.2 fun game mem same => nameless (eq_of_beq same ▸ holds.nameable game mem)

theorem Holds.load_of_feasible {store : FolderStore} {files : List SavedGame}
    (holds : store.Holds files) {now : Instant} {id : String}
    (feasible : (StoreCall.load now id).Feasible) :
    store.load now id =
      match files.find? fun game => game.id == id with
      | some game => GameState.ofCopy now id game.archive
      | none => throw (.saving (.slotNotFound id)) := by
  by_cases null : '\x00' ∈ id.toList
  · rw [holds.find?_of_not_nameable fun nameable => nameable.noNull null]
    exact store.load_of_null feasible.1 null now
  · exact holds.load ⟨feasible.1, null, feasible.2 null⟩ now

/-- A folder that has the games of a list, in any order, answers as the list says. -/
theorem Holds.answers {store next : FolderStore} {files games : List SavedGame}
    (holds : store.Holds files) (perm : files.Perm games) {call : StoreCall} {answer : StoreAnswer}
    (ordered : (games ++ StoreCall.games [call]).Pairwise fun a b => a.time < b.time)
    (feasible : call.Feasible) (answers : Answers store call answer next) :
    answer = (SavedGame.answer games call).1 ∧
      ∃ files', files'.Perm (SavedGame.answer games call).2 ∧ next.Holds files' := by
  have distinct : SavedGame.Distinct games := (perm.map SavedGame.id).nodup_iff.1 holds.distinct
  cases answers with
  | @save written others game wrote read =>
    obtain ⟨_, isPut, inWritten⟩ := holds.write wrote
    obtain ⟨given, isGiven, inOthers⟩ := inWritten.rearranged read
    obtain ⟨returned, left⟩ := inOthers.makeRoom game
    have isPut : given.Perm (SavedGame.put games game) :=
      isGiven.trans (isPut.trans ((perm.filter _).append_right [game]))
    refine ⟨congrArg StoreAnswer.saved returned, _, ?_, left⟩
    change List.Perm _ (SavedGame.saved games game)
    unfold SavedGame.saved
    split
    · rename_i byPlayer
      exact SavedGame.kept_perm_of_newest byPlayer (distinct.put game) isPut
        (ordered.sublist (List.filter_sublist.append_right [game]))
    · exact isPut
  | @refuse game fault failed =>
    obtain ⟨written, wrote⟩ :=
      holds.write_eq_ok feasible.1 feasible.2
    rw [wrote] at failed
    cases failed
  | load now id =>
    have loads := holds.load_of_feasible feasible
    rw [SavedGame.find?_perm perm distinct] at loads
    exact ⟨congrArg StoreAnswer.loaded loads, files, perm, holds⟩
  | list read =>
    obtain ⟨given, isGiven, inFiles⟩ := holds.rearranged read
    refine ⟨congrArg StoreAnswer.listed ?_, files, perm, holds⟩
    rw [inFiles.list, SavedGame.newestFirst_perm_eq (isGiven.trans perm)
      (ordered.sublist (List.sublist_append_left games _))]
    rfl
  | delete id =>
    obtain ⟨deleted, left⟩ := holds.delete feasible
    refine ⟨congrArg StoreAnswer.deleted (deleted.trans ?_), _, perm.filter _, left⟩
    rw [perm.any_eq]
    rfl

/-- To what a folder cannot do it never answers as the list says. -/
theorem Holds.answers_apart {store next : FolderStore} {files games : List SavedGame}
    (holds : store.Holds files) (perm : files.Perm games) {call : StoreCall} {answer : StoreAnswer}
    (infeasible : ¬ call.Feasible) (answers : Answers store call answer next) :
    answer ≠ (SavedGame.answer games call).1 := by
  cases answers with
  | @save written others game wrote read =>
    obtain ⟨key, isText, nameable, writable, -⟩ := write_eq_ok_iff.1 wrote
    cases isText
    exact absurd ⟨nameable, writable⟩ infeasible
  | refuse failed => nofun
  | load now id =>
    intro same
    have distinct := (perm.map SavedGame.id).nodup_iff.1 holds.distinct
    have same := StoreAnswer.loaded.inj same
    by_cases accepted : Accepts id
    · obtain ⟨noNull, overlong⟩ := Classical.not_imp.1 fun short => infeasible ⟨accepted, short⟩
      rw [store.load_of_overlong accepted noNull overlong now,
        ← SavedGame.find?_perm perm distinct,
        holds.find?_of_not_nameable fun nameable => overlong nameable.short] at same
      cases same
    · rw [store.load_of_not_accepted accepted now, ← SavedGame.find?_perm perm distinct,
        holds.find?_of_not_nameable fun nameable => accepted nameable.accepted] at same
      cases same
  | list read => exact absurd trivial infeasible
  | delete id =>
    intro same
    obtain ⟨fault, failed⟩ := store.delete_of_not_nameable infeasible
    rw [failed] at same
    cases same

theorem Holds.run {store last : FolderStore} {files games : List SavedGame}
    (holds : store.Holds files) (perm : files.Perm games) {calls : List StoreCall}
    {answers : List StoreAnswer}
    (ordered : (games ++ StoreCall.games calls).Pairwise fun a b => a.time < b.time)
    (feasible : ∀ call ∈ calls, call.Feasible) (run : Run store calls answers last) :
    answers = SavedGame.answers games calls ∧
      ∃ files', files'.Perm (SavedGame.after games calls) ∧ last.Holds files' := by
  induction run generalizing files games with
  | done => exact ⟨rfl, files, perm, holds⟩
  | @call _ _ _ call answer calls answers one _ ih =>
    obtain ⟨first, others⟩ := List.forall_mem_cons.1 feasible
    obtain ⟨before, after⟩ := SavedGame.ordered_cons ordered
    obtain ⟨same, files', perm', next⟩ := holds.answers perm before first one
    obtain ⟨rest, last⟩ := ih next perm' after others
    rw [same, rest]
    exact ⟨rfl, last⟩

/-- A folder that answers as the list says could do all that it was asked for. -/
theorem Holds.feasible_of_run {store last : FolderStore} {files games : List SavedGame}
    (holds : store.Holds files) (perm : files.Perm games) {calls : List StoreCall}
    {answers : List StoreAnswer}
    (ordered : (games ++ StoreCall.games calls).Pairwise fun a b => a.time < b.time)
    (run : Run store calls answers last) (same : answers = SavedGame.answers games calls) :
    ∀ call ∈ calls, call.Feasible := by
  induction run generalizing files games with
  | done => exact List.forall_mem_nil _
  | @call _ _ _ call answer calls answers one _ ih =>
    obtain ⟨first, others⟩ := List.cons.inj same
    have feasible : call.Feasible := by
      by_contra infeasible
      exact holds.answers_apart perm infeasible one first
    obtain ⟨before, after⟩ := SavedGame.ordered_cons ordered
    obtain ⟨-, files', perm', next⟩ := holds.answers perm before feasible one
    exact List.forall_mem_cons.2 ⟨feasible, ih next perm' after others⟩

/-- Whatever order a folder gives its files in, its answers are those of a store in memory exactly
if it can do all that it is asked for. -/
theorem answers_eq_memory {calls : List StoreCall} (increasing : StoreCall.Increasing calls) :
    (({} : FolderStore).answers calls = ({} : MemoryStore).answers calls ↔
      ∀ call ∈ calls, call.Feasible) ∧
      ∀ answers last, Run {} calls answers last →
        (answers = ({} : MemoryStore).answers calls ↔ ∀ call ∈ calls, call.Feasible) := by
  have same (answers : List StoreAnswer) (last : FolderStore) (run : Run {} calls answers last) :
      answers = ({} : MemoryStore).answers calls ↔ ∀ call ∈ calls, call.Feasible := by
    rw [MemoryStore.Holds.empty.answers]
    exact ⟨Holds.empty.feasible_of_run (.refl []) increasing.times run,
      fun feasible => (Holds.empty.run (.refl []) increasing.times feasible run).1⟩
  exact ⟨same _ _ (run_answers {} calls), same⟩

end FolderStore

namespace Voyage

/-- A save that is loaded, deleted and not there any more. -/
def regret : List StoreCall :=
  [.save (savedByItself 1000000.0), .save (savedByPlayer "a" 1000001.0), .list,
    .load 1000002.0 "save_a", .delete "save_a", .load 1000003.0 "save_a",
    .save (savedByItself 1000004.0), .list]

end Voyage

open Voyage in
theorem regret_agrees : StoreCall.Increasing regret ∧ (∀ call ∈ regret, call.Feasible) ∧
    ({} : FolderStore).answers regret = ({} : MemoryStore).answers regret := by
  have increasing : StoreCall.Increasing regret := ⟨by decide +kernel, by decide +kernel⟩
  have feasible : ∀ call ∈ regret, call.Feasible := by decide +kernel
  exact ⟨increasing, feasible, (FolderStore.answers_eq_memory increasing).1.2 feasible⟩

namespace Voyage

/-- An id of three hundred letters. -/
def longId : String :=
  String.ofList (List.replicate 300 'a')

/-- A game of someone with more gold than can be written. -/
def hoard : SavedGame :=
  { savedByPlayer "a" 1000000.0 with
    state := { ada with player := { ada.player with gold := Int.pow 10 4300 } } }

end Voyage

/-- What names no file cannot be deleted, where a store in memory says that it was not there. -/
theorem deletes_apart {id : String} (nameless : ¬ FolderStore.Nameable id) :
    ({} : FolderStore).answers [.delete id] ≠ ({} : MemoryStore).answers [.delete id] := by
  intro same
  obtain ⟨fault, failed⟩ := FolderStore.delete_of_not_nameable nameless {}
  have inFolder : (({} : FolderStore).answer (.delete id)).1 = .deleted (.error fault) := by
    unfold FolderStore.answer
    dsimp only
    rw [failed]
  rw [FolderStore.answers, MemoryStore.answers, inFolder] at same
  cases (List.cons.inj same).1

open Voyage in
/-- These ids are such as a folder takes, but to delete them fails, and not in memory; and so it is
with a save of the hoard. -/
theorem infeasible_calls_tell_apart :
    (∀ id ∈ [longId, "a\x00"], StoreCall.Increasing [.delete id] ∧
      (∀ call ∈ [StoreCall.delete id], call.Accepted) ∧
      ({} : FolderStore).answers [.delete id] ≠ ({} : MemoryStore).answers [.delete id]) ∧
    StoreCall.Increasing [.save hoard] ∧ (∀ call ∈ [StoreCall.save hoard], call.Accepted) ∧
      ({} : FolderStore).answers [.save hoard] ≠ ({} : MemoryStore).answers [.save hoard] := by
  have nameless : ∀ id ∈ [longId, "a\x00"], ¬ FolderStore.Nameable id := by decide +kernel
  have accepted : ∀ id ∈ [longId, "a\x00"], ∀ call ∈ [StoreCall.delete id], call.Accepted := by
    decide +kernel
  have increasing (id : String) : StoreCall.Increasing [.delete id] :=
    ⟨List.forall_mem_nil _, .nil⟩
  refine ⟨fun id mem => ⟨increasing id, accepted id mem, deletes_apart (nameless id mem)⟩,
    ⟨by decide +kernel, by decide +kernel⟩, by decide +kernel, fun same => ?_⟩
  have refused : ∃ fault, ({} : FolderStore).save hoard.slot hoard.state = (.error fault, {}) := by
    unfold FolderStore.save
    cases wrote : ({} : FolderStore).write hoard.slot hoard.state with
    | ok written =>
      obtain ⟨-, -, -, writable, -⟩ := FolderStore.write_eq_ok_iff.1 wrote
      have unwritable : hoard.archive.isWritable = false := by decide +kernel
      exact absurd (unwritable.symm.trans writable) Bool.false_ne_true
    | error fault => exact ⟨fault, rfl⟩
  obtain ⟨fault, refused⟩ := refused
  have inFolder : (({} : FolderStore).answer (.save hoard)).1 = .saved (.error fault) := by
    unfold FolderStore.answer
    dsimp only
    rw [refused]
  have inMemory := congrArg StoreAnswer.saved (MemoryStore.Holds.empty.save hoard).1
  rw [FolderStore.answers, MemoryStore.answers, inFolder] at same
  cases (List.cons.inj same).1.trans inMemory

end InteractiveFiction
