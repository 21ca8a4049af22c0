import InteractiveFiction.Proofs.Save.Holding
import Mathlib.Data.List.Induction

/-!
The history of a store in memory whose clock is never set back.

* `StoreCall.games`: the games that calls save; `SavedGame.latest`: those not saved over later.
* `StoreCall.Chronological`: save times that never decrease.
* `MemoryStore.history_of_calls`: what is listed and loaded after any calls.
-/

set_option autoImplicit false

namespace InteractiveFiction

namespace StoreCall

def game? : StoreCall → Option SavedGame
  | .save game => some game
  | _ => none

/-- The games that calls save, in their order. -/
def games (calls : List StoreCall) : List SavedGame :=
  calls.filterMap game?

theorem games_append (calls more : List StoreCall) :
    games (calls ++ more) = games calls ++ games more :=
  List.filterMap_append

/-- Save times, to the microsecond, never decrease. -/
structure Chronological (calls : List StoreCall) : Prop where
  dated : ∀ game ∈ games calls, Timestamp.Dated (Timestamp.microseconds game.savedAt)
  ordered : (games calls).Pairwise fun a b =>
    Timestamp.microseconds a.savedAt ≤ Timestamp.microseconds b.savedAt

theorem Chronological.of_append {calls more : List StoreCall}
    (chronological : Chronological (calls ++ more)) : Chronological calls := by
  obtain ⟨dated, ordered⟩ := chronological
  rw [games_append] at dated ordered
  exact ⟨fun game mem => dated game (List.mem_append_left _ mem),
    (List.pairwise_append.1 ordered).1⟩

end StoreCall

namespace SavedGame

variable {games : List SavedGame}

/-! ## The order of what is left -/

/-- The games that are not saved over later, in the order of their last save. -/
def latest : List SavedGame → List SavedGame
  | [] => []
  | game :: games => if games.any (·.id == game.id) then latest games else game :: latest games

theorem latest_append (games : List SavedGame) (game : SavedGame) :
    latest (games ++ [game]) = put (latest games) game := by
  induction games with
  | nil => rfl
  | cons first games ih =>
    rw [List.cons_append, latest, latest, ih, List.any_append]
    cases games.any (·.id == first.id) with
    | true => rfl
    | false =>
      have one : ([game].any (·.id == first.id)) = (first.id == game.id) := by
        rw [List.any_cons, List.any_nil, Bool.or_false, Bool.beq_comm]
      unfold put
      rw [Bool.false_or, one, if_neg Bool.false_ne_true, List.filter_cons, bne]
      cases first.id == game.id <;> rfl

theorem put_sublist {more : List SavedGame} (sublist : games.Sublist more) (game : SavedGame) :
    (put games game).Sublist (put more game) :=
  (sublist.filter _).append (List.Sublist.refl _)

theorem saved_sublist (games : List SavedGame) (game : SavedGame) :
    (saved games game).Sublist (put games game) := by
  unfold saved
  split
  · exact kept_sublist none _
  · exact .refl _

theorem after_append (games : List SavedGame) (calls more : List StoreCall) :
    after games (calls ++ more) = after (after games calls) more :=
  List.foldl_append

/-- What is left of games after calls is in the order of the last saves. -/
theorem after_sublist_latest (calls : List StoreCall) :
    (after [] calls).Sublist (latest (StoreCall.games calls)) := by
  induction calls using List.reverseRecOn with
  | nil => exact .refl _
  | append_singleton calls call ih =>
    rw [after_append, StoreCall.games_append]
    change (answer (after [] calls) call).2.Sublist _
    cases call with
    | save game =>
      rw [show StoreCall.games [.save game] = [game] from rfl, latest_append]
      exact (saved_sublist _ _).trans (put_sublist ih game)
    | delete id =>
      rw [show StoreCall.games [.delete id] = [] from rfl, List.append_nil]
      exact List.filter_sublist.trans ih
    | load now id =>
      rw [show StoreCall.games [.load now id] = [] from rfl, List.append_nil]
      exact ih
    | list =>
      rw [show StoreCall.games [.list] = [] from rfl, List.append_nil]
      exact ih

theorem latest_sublist (games : List SavedGame) : (latest games).Sublist games := by
  induction games with
  | nil => exact .refl _
  | cons first games ih =>
    unfold latest
    split
    · exact ih.cons first
    · exact ih.cons_cons first

/-- Of calls in chronological order the games that are left are in the order of their times. -/
theorem ordered_of_sublist {calls : List StoreCall} (chronological : StoreCall.Chronological calls)
    (sublist : games.Sublist (latest (StoreCall.games calls))) :
    games.Pairwise fun a b => a.time ≤ b.time := by
  refine List.Pairwise.sublist (sublist.trans (latest_sublist _)) ?_
  refine chronological.ordered.imp_of_mem fun memA memB before => ?_
  exact Timestamp.ofMicroseconds_le (chronological.dated _ memA) (chronological.dated _ memB) before

/-! ## What is never dropped -/

/-- A game that is saved by itself stays until it is saved over or deleted. -/
theorem mem_after {game : SavedGame} (byItself : game.isByPlayer = false) {calls : List StoreCall}
    (notOver : ∀ other ∈ StoreCall.games calls, other.id ≠ game.id)
    (notDeleted : .delete game.id ∉ calls) (mem : game ∈ games) : game ∈ after games calls := by
  induction calls generalizing games with
  | nil => exact mem
  | cons call calls ih =>
    have notOver' (other : SavedGame) (later : other ∈ StoreCall.games calls) :
        other.id ≠ game.id :=
      notOver other ((List.sublist_cons_self call calls).filterMap _ |>.subset later)
    refine ih notOver' (fun deleted => notDeleted (List.mem_cons_of_mem call deleted)) ?_
    cases call with
    | save other =>
      have different : other.id ≠ game.id :=
        notOver other (by simp [StoreCall.games, StoreCall.game?])
      have isPut : game ∈ put games other :=
        List.mem_append_left _ (List.mem_filter.2 ⟨mem, bne_iff_ne.2 different.symm⟩)
      change game ∈ saved games other
      unfold saved
      split
      · refine mem_kept_iff.2 ⟨isPut, .inl fun beyond => ?_⟩
        rw [(mem_of_mem_surplus beyond).2] at byItself
        cases byItself
      · exact isPut
    | delete id =>
      refine List.mem_filter.2 ⟨mem, bne_iff_ne.2 ?_⟩
      rintro rfl
      exact notDeleted List.mem_cons_self
    | load now id => exact mem
    | list => exact mem

theorem mem_saved (games : List SavedGame) {game : SavedGame} (byItself : game.isByPlayer = false) :
    game ∈ saved games game := by
  unfold saved
  rw [byItself, if_neg Bool.false_ne_true]
  simp [put]

/-- Of one state there is at most one slot that it was saved to by itself. -/
theorem countP_autosaves_le (distinct : Distinct games) (state : Document) :
    games.countP (fun game => !game.isByPlayer && game.state.id == state) ≤ 1 := by
  have one : ∀ key ∈ (games.filter fun game => !game.isByPlayer && game.state.id == state).map id,
      key = "autosave_" ++ state.display := by
    intro _ mem
    obtain ⟨game, among, rfl⟩ := List.mem_map.1 mem
    obtain ⟨-, isOf⟩ := List.mem_filter.1 among
    obtain ⟨byItself, rfl⟩ : game.token = none ∧ game.state.id = state := by
      simpa [isByPlayer] using isOf
    unfold id
    rw [byItself]
    rfl
  have nodup : ((games.filter fun game =>
      !game.isByPlayer && game.state.id == state).map id).Nodup :=
    distinct.sublist List.filter_sublist
  rw [List.eq_replicate_of_mem one, List.nodup_replicate, List.length_map] at nodup
  rwa [List.countP_eq_length_filter]

end SavedGame

/-! ## Listings -/

namespace SaveSlot

/-- Of slots in the order of a listing those that are not beyond the limit. -/
def withinLimit (slots : List SaveSlot) : List SaveSlot :=
  slots.filter fun slot =>
    decide (slot ∉ (slots.filter fun slot => !slot.isAutosave).drop limit)

end SaveSlot

/-- What a listing becomes by a call: a save puts its slot in front, and that of a player drops
those slots of players that are behind the first ones, as many as the limit says. -/
def StoreCall.relist : StoreCall → List SaveSlot → List SaveSlot
  | .save game, slots =>
    let all := game.slot :: slots.filter fun slot => slot.id != .text game.id
    if game.isByPlayer then SaveSlot.withinLimit all else all
  | .delete id, slots => slots.filter fun slot => slot.id != .text id
  | .load .., slots | .list, slots => slots

namespace SavedGame

variable {games : List SavedGame}

theorem slots_of_others (games : List SavedGame) (id : String) :
    (games.map slot).filter (fun slot => slot.id != .text id) =
      (games.filter fun game => game.id != id).map slot := by
  rw [List.filter_map]
  congr 2
  funext game
  rw [Function.comp_apply, id_slot, Bool.eq_iff_iff, bne_iff_ne, bne_iff_ne, ne_eq, ne_eq,
    Document.text.injEq]

theorem withinLimit_slots (distinct : Distinct games)
    (ordered : games.Pairwise fun a b => a.time ≤ b.time) :
    SaveSlot.withinLimit (games.reverse.map slot) = (kept none games).reverse.map slot := by
  have players : (fun slot : SaveSlot => !slot.isAutosave) ∘ slot = isByPlayer := by
    funext game
    simp [isAutosave_slot]
  have beyond : (((games.reverse.map slot).filter fun slot => !slot.isAutosave).drop
      SaveSlot.limit) = (surplus games).map slot := by
    rw [surplus, newestFirst_of_ordered ordered, List.filter_map, players, List.map_drop]
  unfold SaveSlot.withinLimit kept
  rw [beyond, List.filter_map, ← List.filter_reverse]
  congr 1
  refine List.filter_congr fun game mem => decide_eq_decide.2 ?_
  have mem := List.mem_reverse.1 mem
  constructor
  · exact fun within => .inl fun isBeyond => within (List.mem_map.2 ⟨game, isBeyond, rfl⟩)
  · rintro (within | none) isBeyond
    · obtain ⟨other, otherBeyond, same⟩ := List.mem_map.1 isBeyond
      have same := Document.text.inj (congrArg SaveSlot.id same)
      exact within (distinct.eq_of_id (mem_of_mem_surplus otherBeyond).1 mem same ▸ otherBeyond)
    · cases none

/-- Games in the order of their times are listed in the reverse of it, after each call. -/
theorem relist_slots (distinct : Distinct games) {call : StoreCall}
    (ordered : ∀ game, call = .save game → (put games game).Pairwise fun a b => a.time ≤ b.time) :
    call.relist (games.reverse.map slot) = (answer games call).2.reverse.map slot := by
  have putReverse (game : SavedGame) : game.slot :: (games.reverse.map slot).filter
      (fun slot => slot.id != .text game.id) = (put games game).reverse.map slot := by
    rw [slots_of_others, put, List.reverse_append, List.filter_reverse]
    rfl
  cases call with
  | save game =>
    change (if game.isByPlayer = true then SaveSlot.withinLimit _ else _) = _
    rw [putReverse]
    change _ = (saved games game).reverse.map slot
    unfold saved
    split
    · exact withinLimit_slots (distinct.put game) (ordered game rfl)
    · rfl
  | delete id =>
    change List.filter _ _ = (List.filter _ _).reverse.map slot
    rw [slots_of_others, List.filter_reverse]
  | load now id => rfl
  | list => rfl

end SavedGame

namespace MemoryStore

theorem Holds.list_of_ordered {store : MemoryStore} {games : List SavedGame}
    (holds : store.Holds games) (ordered : games.Pairwise fun a b => a.time ≤ b.time) :
    store.list = .ok (games.reverse.map SavedGame.slot) := by
  rw [holds.list, SavedGame.newestFirst_of_ordered ordered]

/-- What is listed and held after calls in chronological order.  The listing is in the reverse order
of the last saves; one slot is the last to which a state was saved by itself, and it stays; and each
call makes of the listing before it what `StoreCall.relist` says. -/
theorem history_of_calls {calls : List StoreCall}
    (chronological : StoreCall.Chronological calls) :
    ∃ slots, (({} : MemoryStore).after calls).list = .ok slots ∧
      slots.Sublist ((SavedGame.latest (StoreCall.games calls)).reverse.map SavedGame.slot) ∧
      (∀ state, slots.countP (fun slot => slot.isAutosave && slot.stateId == state) ≤ 1) ∧
      (∀ before game rest, calls = before ++ .save game :: rest → game.isByPlayer = false →
        (∀ other ∈ StoreCall.games rest, other.id ≠ game.id) → .delete game.id ∉ rest →
          game.slot ∈ slots ∧
            (({} : MemoryStore).after calls).archives.get? game.id = some game.archive) ∧
      ∀ before call, calls = before ++ [call] →
        ∃ former, (({} : MemoryStore).after before).list = .ok former ∧
          slots = call.relist former := by
  have holds := Holds.empty.after calls
  have left := SavedGame.after_sublist_latest calls
  have listed := holds.list_of_ordered (SavedGame.ordered_of_sublist chronological left)
  refine ⟨_, listed, ?_, fun state => ?_, ?_, ?_⟩
  · exact (left.reverse).map SavedGame.slot
  · rw [List.countP_map, List.countP_reverse]
    exact SavedGame.countP_autosaves_le holds.distinct state
  · rintro before game rest rfl byItself notOver notDeleted
    have mem : game ∈ SavedGame.after [] (before ++ .save game :: rest) := by
      rw [SavedGame.after_append]
      change game ∈ SavedGame.after (SavedGame.saved (SavedGame.after [] before) game) rest
      exact SavedGame.mem_after byItself notOver notDeleted (SavedGame.mem_saved _ byItself)
    refine ⟨List.mem_map.2 ⟨game, List.mem_reverse.2 mem, rfl⟩, OrderedMap.get?_of_mem ?_⟩
    rw [holds]
    exact List.mem_map.2 ⟨game, mem, rfl⟩
  · rintro before call rfl
    have holdsBefore := Holds.empty.after before
    have leftBefore := SavedGame.after_sublist_latest before
    refine ⟨_, holdsBefore.list_of_ordered
      (SavedGame.ordered_of_sublist chronological.of_append leftBefore), ?_⟩
    rw [SavedGame.relist_slots holdsBefore.distinct, SavedGame.after_append]
    · rfl
    · rintro game rfl
      refine SavedGame.ordered_of_sublist chronological ?_
      rw [StoreCall.games_append]
      exact SavedGame.latest_append _ game ▸ SavedGame.put_sublist leftBefore game

end MemoryStore

/-! ## A voyage -/

namespace Voyage

def ada : GameState :=
  .starting 1000000.0 "voyage" "ferry" "pier" "Ada" {}

def savedByItself (savedAt : Instant) : SavedGame where
  state := ada
  name := "Autosave"
  savedAt := savedAt

def savedByPlayer (token : String) (savedAt : Instant) : SavedGame where
  state := ada
  name := "On the pier"
  savedAt := savedAt
  token := some token

/-- Two saves at one time, and a third one a second later. -/
def calls : List StoreCall :=
  [.save (savedByItself 1000000.0), .save (savedByPlayer "a" 1000000.0), .list,
    .save (savedByItself 1000001.0)]

end Voyage

open Voyage in
theorem voyage_history : StoreCall.Chronological calls ∧
    ∃ slots former, (({} : MemoryStore).after calls).list = .ok slots ∧
      (({} : MemoryStore).after (calls.take 3)).list = .ok former ∧
      slots = (StoreCall.save (savedByItself 1000001.0)).relist former ∧
      (savedByItself 1000001.0).slot ∈ slots := by
  have chronological : StoreCall.Chronological calls := ⟨by decide +kernel, by decide +kernel⟩
  obtain ⟨slots, listed, -, -, stays, step⟩ := MemoryStore.history_of_calls chronological
  obtain ⟨former, listedBefore, isNext⟩ := step (calls.take 3) _ rfl
  exact ⟨chronological, slots, former, listed, listedBefore, isNext,
    (stays (calls.take 3) (savedByItself 1000001.0) [] rfl rfl
      (fun _ mem => absurd mem List.not_mem_nil) List.not_mem_nil).1⟩

end InteractiveFiction
