import InteractiveFiction.Proofs.Save.Keeping
import InteractiveFiction.Proofs.Timestamp
import Mathlib.Data.List.Nodup
import Mathlib.Data.List.Pairwise

/-!
Saved games, as stores hold them: their order by time, which of them are too many, and what stores
answer that are called again and again.

* `SavedGame`: what a store is told of a game that it saves.
* `SaveSlot.listed_by_instant`: slots, whose times are texts, are listed by their instants.
* `SavedGame.newestFirst`: the order of listings; games of one time in the reverse of the order in
  which they are read.
* `SavedGame.surplus`: the games of players that are beyond the limit.
* `SavedGame.mem_surplus_iff`: a player's game is beyond the limit exactly if as many others as the
  limit says come before it.
* `StoreCall`, `StoreAnswer`: what a store is asked, and what comes back.
* `MemoryStore.answer`: one call of a store in memory.
* `FolderStore.Answers`: one call of a store in a folder.  A folder gives its files in any order
  whenever it is read, so that there may be several answers.
* `SavedGame.answer`: what either store answers if all it has are certain games, in the order in
  which they were written.
-/

set_option autoImplicit false

namespace InteractiveFiction

structure SavedGame where
  state : GameState
  name : Document
  savedAt : Instant
  /-- What the id of a player's slot ends with; a game that is saved by itself has none. -/
  token : Option String := none
deriving DecidableEq

namespace SavedGame

def id (game : SavedGame) : String :=
  match game.token with
  | some token => "save_" ++ token
  | none => SaveSlot.autosaveId game.state

def isByPlayer (game : SavedGame) : Bool :=
  game.token.isSome

def slot (game : SavedGame) : SaveSlot :=
  .ofState game.savedAt game.id game.state game.name !game.isByPlayer

def archive (game : SavedGame) : Document :=
  game.slot.archive game.state

/-- The text of the time at which the game was saved. -/
def time (game : SavedGame) : String :=
  Timestamp.text game.savedAt

theorem id_slot (game : SavedGame) : game.slot.id = .text game.id := rfl

theorem isAutosave_slot (game : SavedGame) : game.slot.isAutosave = !game.isByPlayer := rfl

theorem savedAt_slot (game : SavedGame) : game.slot.savedAt = .text game.time := rfl

end SavedGame

/-! ## By time -/

section ByTime

variable {α κ : Type} [LinearOrder κ] (time : α → κ)

def isNotBefore (a b : α) : Bool :=
  decide (time b ≤ time a)

theorem isNotBefore_trans (a b c : α) (ab : isNotBefore time a b = true)
    (bc : isNotBefore time b c = true) : isNotBefore time a c = true := by
  simp only [isNotBefore, decide_eq_true_iff] at *
  exact le_trans bc ab

theorem isNotBefore_total (a b : α) : (isNotBefore time a b || isNotBefore time b a) = true := by
  simp only [isNotBefore, Bool.or_eq_true, decide_eq_true_iff]
  exact le_total _ _

/-- The latest first, and of one time the last one first. -/
def latestFirst (items : List α) : List α :=
  items.reverse.mergeSort (isNotBefore time)

theorem latestFirst_perm (items : List α) : (latestFirst time items).Perm items :=
  (List.mergeSort_perm _ _).trans (List.reverse_perm items)

theorem latestFirst_sorted (items : List α) :
    (latestFirst time items).Pairwise fun a b => isNotBefore time a b = true :=
  List.pairwise_mergeSort (isNotBefore_trans time) (isNotBefore_total time) _

/-- Of two items the one that comes later stands first unless it is of an earlier time. -/
theorem pair_sublist_latestFirst {items : List α} {a b : α} (inOrder : [a, b].Sublist items)
    (notBefore : time a ≤ time b) : [b, a].Sublist (latestFirst time items) :=
  List.pair_sublist_mergeSort (isNotBefore_trans time) (isNotBefore_total time)
    (decide_eq_true notBefore) (List.reverse_sublist.2 inOrder)

end ByTime

/-! ## Reading slots -/

namespace SaveSlot

theorem isAtLeastAsNew_iff {a b : SaveSlot} {s t : String} (first : a.savedAt = .text s)
    (second : b.savedAt = .text t) : a.isAtLeastAsNew b = true ↔ t ≤ s := by
  have order : a.savedAt.order? b.savedAt = some (compare s t) := by
    rw [first, second]
    rfl
  rw [isAtLeastAsNew, order, bne_iff_ne, ne_eq, Option.some.injEq, compare_lt_iff_lt, not_lt]

theorem comparable_of_texts {slots : List SaveSlot}
    (texts : ∀ slot ∈ slots, ∃ time, slot.savedAt = .text time) : comparable slots = true := by
  induction slots with
  | nil => rfl
  | cons slot slots ih =>
    rw [comparable, ih fun other mem => texts other (List.mem_cons_of_mem slot mem), Bool.and_true,
      List.all_eq_true]
    intro other mem
    obtain ⟨time, isText⟩ := texts slot List.mem_cons_self
    obtain ⟨time', isText'⟩ := texts other (List.mem_cons_of_mem slot mem)
    rw [isText, isText']
    rfl

/-- How many slots of players have their place before a slot: of those that are read before it the
newer ones, and of those that are read after it also those of the same time. -/
def ahead (earlier : List SaveSlot) (slot : SaveSlot) (later : List SaveSlot) : Nat :=
  earlier.countP (fun other => !other.isAutosave && !slot.isAtLeastAsNew other) +
    later.countP fun other => !other.isAutosave && other.isAtLeastAsNew slot

/-! ### Instants of slots -/

/-- A slot has the time of an instant, given in microseconds, of the years 1 to 9999. -/
def SavedAt (slot : SaveSlot) (instant : Int) : Prop :=
  (1 ≤ (Timestamp.dateOf instant).year ∧ (Timestamp.dateOf instant).year ≤ 9999) ∧
    slot.savedAt = .text (Timestamp.ofMicroseconds instant)

instance (slot : SaveSlot) (instant : Int) : Decidable (slot.SavedAt instant) :=
  inferInstanceAs (Decidable (_ ∧ _))

theorem isAtLeastAsNew_of_savedAt {a b : SaveSlot} {s t : Int} (first : a.SavedAt s)
    (second : b.SavedAt t) : a.isAtLeastAsNew b = decide (t ≤ s) := by
  rw [Bool.eq_iff_iff, isAtLeastAsNew_iff first.2 second.2, decide_eq_true_iff]
  exact Timestamp.ofMicroseconds_le_iff (Timestamp.dated_iff.2 second.1)
    (Timestamp.dated_iff.2 first.1)

theorem newestFirst_of_savedAt {saves : List (Int × SaveSlot)}
    (dated : ∀ save ∈ saves, save.2.SavedAt save.1) :
    newestFirst (saves.map Prod.snd) = .ok ((latestFirst Prod.fst saves).map Prod.snd) := by
  have texts : comparable (saves.map Prod.snd) = true := by
    refine comparable_of_texts fun slot mem => ?_
    obtain ⟨save, among, rfl⟩ := List.mem_map.1 mem
    exact ⟨_, (dated save among).2⟩
  have sameOrder : ∀ a ∈ saves.reverse, ∀ b ∈ saves.reverse,
      isNotBefore Prod.fst a b = a.2.isAtLeastAsNew b.2 := fun a memA b memB =>
    (isAtLeastAsNew_of_savedAt (dated a (List.mem_reverse.1 memA))
      (dated b (List.mem_reverse.1 memB))).symm
  unfold newestFirst latestFirst
  rw [if_pos texts, List.map_mergeSort sameOrder, List.map_reverse]
  rfl

/-- Days have the dates of the calendar, and of two instants of the years 1 to 9999 the earlier one
has the smaller text.  So slots are listed by their instants: none is older than one that is listed
after it, and of two the one that was written later is listed first unless it is older. -/
theorem listed_by_instant :
    (Timestamp.date 0 = ⟨1970, 1, 1⟩ ∧
      ∀ days, Timestamp.date (days + 1) = (Timestamp.date days).next) ∧
    (∀ a b, 1 ≤ (Timestamp.dateOf a).year → (Timestamp.dateOf b).year ≤ 9999 → a < b →
      Timestamp.ofMicroseconds a < Timestamp.ofMicroseconds b) ∧
    ∀ saves : List (Int × SaveSlot), (∀ save ∈ saves, save.2.SavedAt save.1) →
      ∃ listed, newestFirst (saves.map Prod.snd) = .ok (listed.map Prod.snd) ∧
        listed.Perm saves ∧ (listed.Pairwise fun a b => b.1 ≤ a.1) ∧
        ∀ a b, [a, b].Sublist saves → a.1 ≤ b.1 → [b, a].Sublist listed := by
  refine ⟨⟨rfl, Timestamp.date_succ⟩, ?_, ?_⟩
  · intro a b first last less
    have years := Timestamp.year_le (by omega : a / 1000000 / 86400 ≤ b / 1000000 / 86400)
    exact Timestamp.ofMicroseconds_lt (Timestamp.dated_iff.2 ⟨first, years.trans last⟩)
      (Timestamp.dated_iff.2 ⟨first.trans years, last⟩) less
  · intro saves dated
    exact ⟨latestFirst Prod.fst saves, newestFirst_of_savedAt dated, latestFirst_perm _ saves,
      (latestFirst_sorted _ saves).imp of_decide_eq_true,
      fun a b => pair_sublist_latestFirst Prod.fst⟩

/-! ### The night after a leap day -/

def savedAs (id : String) (instant : Int) (text : String) : Int × SaveSlot :=
  (instant, { id := id, savedAt := .text text })

/-- Half a second after midnight, a microsecond before it, and two at midnight, in the order in which
they were written. -/
def leapNight : List (Int × SaveSlot) :=
  [savedAs "late" 951868800500000 "2000-03-01T00:00:00.500000+00:00",
    savedAs "eve" 951868799999999 "2000-02-29T23:59:59.999999+00:00",
    savedAs "midnight" 951868800000000 "2000-03-01T00:00:00+00:00",
    savedAs "again" 951868800000000 "2000-03-01T00:00:00+00:00"]

theorem leapNight_listed :
    (∀ save ∈ leapNight, save.2.SavedAt save.1) ∧
      Timestamp.ofMicroseconds 951868800000000 < Timestamp.ofMicroseconds 951868800500000 ∧
      ∃ listed, newestFirst (leapNight.map Prod.snd) = .ok (listed.map Prod.snd) ∧
        listed.Perm leapNight ∧ (listed.Pairwise fun a b => b.1 ≤ a.1) ∧
        [leapNight[3], leapNight[2]].Sublist listed := by
  have saved : ∀ save ∈ leapNight, save.2.SavedAt save.1 := by decide +kernel
  obtain ⟨-, ordered, lists⟩ := listed_by_instant
  obtain ⟨listed, isListed, perm, sorted, later⟩ := lists leapNight saved
  have written : [leapNight[2], leapNight[3]].Sublist leapNight :=
    .cons _ (.cons _ (.refl _))
  exact ⟨saved, ordered _ _ (by decide) (by decide) (by decide), listed, isListed, perm, sorted,
    later _ _ written (Int.le_refl _)⟩

end SaveSlot

namespace SavedGame

theorem comparable_slots (games : List SavedGame) :
    SaveSlot.comparable (games.map slot) = true := by
  refine SaveSlot.comparable_of_texts fun other mem => ?_
  obtain ⟨game, -, rfl⟩ := List.mem_map.1 mem
  exact ⟨game.time, game.savedAt_slot⟩

/-! ## The newest first -/

def isAtLeastAsNew (a b : SavedGame) : Bool :=
  decide (b.time ≤ a.time)

theorem isAtLeastAsNew_slot (a b : SavedGame) :
    a.slot.isAtLeastAsNew b.slot = a.isAtLeastAsNew b := by
  rw [Bool.eq_iff_iff, SaveSlot.isAtLeastAsNew_iff a.savedAt_slot b.savedAt_slot, isAtLeastAsNew,
    decide_eq_true_iff]

theorem isAtLeastAsNew_eq : isAtLeastAsNew = isNotBefore time :=
  funext fun _ => funext fun _ => decide_eq_decide.2 Iff.rfl

theorem isAtLeastAsNew_trans (a b c : SavedGame) (hab : a.isAtLeastAsNew b = true)
    (hbc : b.isAtLeastAsNew c = true) : a.isAtLeastAsNew c = true := by
  rw [isAtLeastAsNew_eq] at *
  exact isNotBefore_trans time a b c hab hbc

theorem isAtLeastAsNew_total (a b : SavedGame) :
    (a.isAtLeastAsNew b || b.isAtLeastAsNew a) = true := by
  rw [isAtLeastAsNew_eq]
  exact isNotBefore_total time a b

def newestFirst (games : List SavedGame) : List SavedGame :=
  games.reverse.mergeSort isAtLeastAsNew

theorem newestFirst_eq (games : List SavedGame) : newestFirst games = latestFirst time games := by
  rw [newestFirst, isAtLeastAsNew_eq, latestFirst]

theorem newestFirst_perm (games : List SavedGame) : (newestFirst games).Perm games := by
  rw [newestFirst_eq]
  exact latestFirst_perm time games

theorem newestFirst_sorted (games : List SavedGame) :
    (newestFirst games).Pairwise fun a b => a.isAtLeastAsNew b = true := by
  rw [newestFirst_eq, isAtLeastAsNew_eq]
  exact latestFirst_sorted time games

theorem newestFirst_slots (games : List SavedGame) :
    SaveSlot.newestFirst (games.map slot) = .ok ((newestFirst games).map slot) := by
  unfold SaveSlot.newestFirst newestFirst
  rw [if_pos (comparable_slots games),
    List.map_mergeSort fun a _ b _ => (isAtLeastAsNew_slot a b).symm, List.map_reverse]
  rfl

/-- Games that were saved one after another are listed in the reverse of that order. -/
theorem newestFirst_of_ordered {games : List SavedGame}
    (ordered : games.Pairwise fun a b => a.time ≤ b.time) : newestFirst games = games.reverse := by
  refine List.mergeSort_of_pairwise (List.pairwise_reverse.2 (ordered.imp fun before => ?_))
  exact decide_eq_true before

/-- Where no two games are of one time, it does not matter in which order they are read. -/
theorem newestFirst_eq_of_perm {games games' : List SavedGame} (perm : games.Perm games')
    (distinct : games.Pairwise fun a b => a.time ≠ b.time) :
    newestFirst games = newestFirst games' := by
  have same : ((newestFirst games).Perm (newestFirst games')) :=
    (newestFirst_perm games).trans (perm.trans (newestFirst_perm games').symm)
  refine same.eq_of_pairwise ?_ (newestFirst_sorted games) (newestFirst_sorted games')
  intro a b memA memB newer newer'
  simp only [isAtLeastAsNew, decide_eq_true_iff] at newer newer'
  have memA := (newestFirst_perm games).mem_iff.1 memA
  have memB := perm.mem_iff.2 ((newestFirst_perm games').mem_iff.1 memB)
  have : Std.Symm fun a b : SavedGame => a.time ≠ b.time := ⟨fun _ _ h => h.symm⟩
  by_contra different
  exact distinct.forall memA memB different (le_antisymm newer' newer)

/-- The games that come before a game of a list once the list is sorted: of those read before it
all that are not older, and of those read after it all that are newer. -/
def ahead (late : List SavedGame) (game : SavedGame) (early : List SavedGame) : List SavedGame :=
  late.filter (fun other => other.isAtLeastAsNew game) ++
    early.filter fun other => !game.isAtLeastAsNew other

theorem mergeSort_cons_split (game : SavedGame) (early : List SavedGame) : ∃ before after,
    (game :: early).mergeSort isAtLeastAsNew = before ++ game :: after ∧
    early.mergeSort isAtLeastAsNew = before ++ after ∧
    (∀ other ∈ before, game.isAtLeastAsNew other = false) ∧
    ∀ other ∈ after, game.isAtLeastAsNew other = true := by
  obtain ⟨before, after, whole, rest, newer⟩ :=
    List.mergeSort_cons isAtLeastAsNew_trans isAtLeastAsNew_total game early
  have ordered :=
    List.pairwise_mergeSort isAtLeastAsNew_trans isAtLeastAsNew_total (game :: early)
  rw [whole, List.pairwise_append, List.pairwise_cons] at ordered
  exact ⟨before, after, whole, rest, fun other mem => by simpa using newer other mem,
    ordered.2.1.1⟩

theorem mergeSort_append_cons (late : List SavedGame) (game : SavedGame)
    (early : List SavedGame) : ∃ before after,
      (late ++ game :: early).mergeSort isAtLeastAsNew = before ++ game :: after ∧
      before.Perm (ahead late game early) := by
  induction late with
  | nil =>
    obtain ⟨before, after, whole, rest, newer, notNewer⟩ := mergeSort_cons_split game early
    refine ⟨before, after, whole, ?_⟩
    have split : (before ++ after).filter (fun other => !game.isAtLeastAsNew other) = before := by
      rw [List.filter_append, List.filter_eq_self.2, List.filter_eq_nil_iff.2, List.append_nil]
      · intro other mem
        simp [notNewer other mem]
      · intro other mem
        simp [newer other mem]
    unfold ahead
    rw [List.filter_nil, List.nil_append, ← split, ← rest]
    exact (List.mergeSort_perm early _).filter _
  | cons other late ih =>
    obtain ⟨before, after, sorted, perm⟩ := ih
    obtain ⟨front, back, whole, rest, newer, notNewer⟩ :=
      mergeSort_cons_split other (late ++ game :: early)
    -- The other game is put before this one or after it, and both sides say which of them is newer.
    have place : (∃ between, before = front ++ between ∧ back = between ++ game :: after) ∨
        ∃ between, front = before ++ game :: between ∧ after = between ++ back := by
      rw [sorted] at rest
      rcases List.append_eq_append_iff.1 rest with
        ⟨between, isFront, isBack⟩ | ⟨between, isBefore, isBack⟩
      · cases between with
        | nil => exact .inl ⟨[], by simpa using isFront.symm, by simpa using isBack.symm⟩
        | cons first between =>
          obtain ⟨rfl, isAfter⟩ := List.cons.inj isBack
          exact .inr ⟨between, isFront, isAfter⟩
      · exact .inl ⟨between, isBefore, isBack⟩
    unfold ahead
    rw [List.cons_append, whole, List.filter_cons]
    rcases place with ⟨between, rfl, rfl⟩ | ⟨between, rfl, rfl⟩
    · refine ⟨front ++ other :: between, after, by simp, ?_⟩
      rw [if_pos (notNewer game (by simp)), List.cons_append]
      exact List.perm_middle.trans (perm.cons other)
    · refine ⟨before, between ++ other :: back, by simp, ?_⟩
      rw [if_neg (by simp [newer game (by simp)])]
      exact perm

theorem newestFirst_append_cons (earlier : List SavedGame) (game : SavedGame)
    (later : List SavedGame) : ∃ before after,
      newestFirst (earlier ++ game :: later) = before ++ game :: after ∧
      before.Perm (ahead later.reverse game earlier.reverse) := by
  unfold newestFirst
  rw [List.reverse_append, List.reverse_cons, List.append_assoc]
  exact mergeSort_append_cons later.reverse game earlier.reverse

/-! ## Beyond the limit -/

/-- The games of players beyond the newest ones, as many as the limit says. -/
def surplus (games : List SavedGame) : List SavedGame :=
  ((newestFirst games).filter isByPlayer).drop SaveSlot.limit

theorem overLimit_slots (games : List SavedGame) :
    SaveSlot.overLimit (games.map slot) = .ok ((surplus games).map slot) := by
  have own : (fun slot : SaveSlot => !slot.isAutosave) ∘ slot = isByPlayer := by
    funext game
    simp [isAutosave_slot]
  unfold SaveSlot.overLimit surplus
  rw [Result.bind_of_ok (newestFirst_slots games), List.filter_map, own, List.map_drop]
  rfl

theorem mem_of_mem_surplus {games : List SavedGame} {game : SavedGame}
    (beyond : game ∈ surplus games) : game ∈ games ∧ game.isByPlayer = true := by
  obtain ⟨mem, byPlayer⟩ := List.mem_filter.1 (List.mem_of_mem_drop beyond)
  exact ⟨(newestFirst_perm games).mem_iff.1 mem, byPlayer⟩

theorem mem_surplus_iff {earlier later : List SavedGame} {game : SavedGame}
    (distinct : (earlier ++ game :: later).Nodup) (byPlayer : game.isByPlayer = true) :
    game ∈ surplus (earlier ++ game :: later) ↔
      SaveSlot.limit ≤ SaveSlot.ahead (earlier.map slot) game.slot (later.map slot) := by
  obtain ⟨before, after, sorted, perm⟩ := newestFirst_append_cons earlier game later
  have others := (newestFirst_perm _).nodup_iff.2 distinct
  rw [sorted, List.nodup_middle, List.nodup_cons, List.mem_append, not_or] at others
  obtain ⟨⟨notBefore, notAfter⟩, -⟩ := others
  have count : (before.filter isByPlayer).length =
      SaveSlot.ahead (earlier.map slot) game.slot (later.map slot) := by
    rw [← List.countP_eq_length_filter, perm.countP_eq]
    unfold ahead SaveSlot.ahead
    simp only [List.countP_append, List.countP_filter, List.countP_reverse, List.countP_map,
      Function.comp_def, isAutosave_slot, isAtLeastAsNew_slot, Bool.not_not]
    exact Nat.add_comm _ _
  unfold surplus
  rw [sorted, List.filter_append, List.filter_cons_of_pos byPlayer, ← count, List.drop_append,
    List.mem_append]
  constructor
  · rintro (mem | mem)
    · exact absurd (List.mem_of_mem_filter (List.mem_of_mem_drop mem)) notBefore
    · refine Nat.sub_eq_zero_iff_le.1 (Nat.eq_zero_of_not_pos fun positive => ?_)
      obtain ⟨n, isSucc⟩ := Nat.exists_eq_add_one.2 positive
      rw [isSucc, List.drop_succ_cons] at mem
      exact notAfter (List.mem_of_mem_filter (List.mem_of_mem_drop mem))
  · intro crowded
    refine .inr ?_
    rw [Nat.sub_eq_zero_of_le crowded, List.drop_zero]
    exact List.mem_cons_self

/-! ## Making room -/

/-- The games that are left when the surplus is dropped, all but the one with the id to keep. -/
def kept (keep : Option String) (games : List SavedGame) : List SavedGame :=
  games.filter fun game => decide (game ∉ surplus games ∨ some game.id = keep)

theorem mem_kept_iff {keep : Option String} {games : List SavedGame} {game : SavedGame} :
    game ∈ kept keep games ↔ game ∈ games ∧ (game ∉ surplus games ∨ some game.id = keep) := by
  unfold kept
  rw [List.mem_filter, decide_eq_true_iff]

theorem kept_sublist (keep : Option String) (games : List SavedGame) :
    (kept keep games).Sublist games :=
  List.filter_sublist

/-- The limit is kept exactly if the game to keep is not itself beyond it. -/
theorem countP_kept_le_iff {keep : Option String} {games : List SavedGame}
    (distinct : games.Nodup) :
    (kept keep games).countP isByPlayer ≤ SaveSlot.limit ↔
      ∀ game ∈ surplus games, some game.id ≠ keep := by
  have perm := (newestFirst_perm games).filter isByPlayer
  have players := perm.nodup_iff.2 (distinct.filter isByPlayer)
  -- The games of players are the newest ones, all of which are kept, and the surplus.
  have count : (kept keep games).countP isByPlayer =
      (((newestFirst games).filter isByPlayer).take SaveSlot.limit).length +
        (surplus games).countP fun game => decide (some game.id = keep) := by
    have split := List.take_append_drop SaveSlot.limit ((newestFirst games).filter isByPlayer)
    have apart := split ▸ players
    rw [List.nodup_append] at apart
    have swap (p q : SavedGame → Bool) : (games.filter p).countP q = (games.filter q).countP p := by
      rw [List.countP_filter, List.countP_filter]
      simp only [Bool.and_comm]
    rw [kept, swap, ← perm.countP_eq, ← split, List.countP_append, split]
    congr 1
    · rw [List.countP_eq_length]
      intro game mem
      exact decide_eq_true (.inl fun beyond => apart.2.2 game mem game beyond rfl)
    · refine List.countP_congr fun game beyond => ?_
      have beyond : game ∈ surplus games := beyond
      simp [beyond]
  rw [count, List.length_take]
  constructor
  · intro within game beyond isKept
    have more : SaveSlot.limit < ((newestFirst games).filter isByPlayer).length :=
      Nat.lt_of_not_le fun few => by
        have none : surplus games = [] := List.drop_eq_nil_of_le few
        rw [none] at beyond
        cases beyond
    have one : 0 < (surplus games).countP fun game => decide (some game.id = keep) :=
      List.countP_pos_iff.2 ⟨game, beyond, decide_eq_true isKept⟩
    omega
  · intro dropped
    have none : ((surplus games).countP fun game => decide (some game.id = keep)) = 0 :=
      List.countP_eq_zero.2 fun game beyond => by simpa using dropped game beyond
    omega

end SavedGame

/-! ## Stores that are called again and again -/

inductive StoreCall where
  | save (game : SavedGame)
  | load (now : Instant) (id : String)
  | list
  | delete (id : String)
deriving DecidableEq

inductive StoreAnswer where
  | saved (result : Result SaveSlot)
  | loaded (result : Result GameState)
  | listed (result : Result (List SaveSlot))
  | deleted (result : Result Bool)

/-! ### Stores in memory -/

namespace MemoryStore

def answer (store : MemoryStore) : StoreCall → StoreAnswer × MemoryStore
  | .save game =>
    let (result, store) := store.save game.slot game.state
    (.saved result, store)
  | .load now id => (.loaded (store.load now id), store)
  | .list => (.listed store.list, store)
  | .delete id =>
    let (deleted, store) := store.delete id
    (.deleted (pure deleted), store)

def answers (store : MemoryStore) : List StoreCall → List StoreAnswer
  | [] => []
  | call :: calls => (store.answer call).1 :: (store.answer call).2.answers calls

def after (store : MemoryStore) (calls : List StoreCall) : MemoryStore :=
  calls.foldl (fun store call => (store.answer call).2) store

end MemoryStore

/-! ### Stores in a folder -/

namespace FolderStore

/-- The same files, in any order. -/
def Rearranges (store other : FolderStore) : Prop :=
  store.entries.entries.Perm other.entries.entries

theorem Rearranges.refl (store : FolderStore) : store.Rearranges store :=
  List.Perm.refl _

/-- A call of a store, its answer, and the store that is left.  A save that writes its file reads
the folder after that, to make room. -/
inductive Answers : FolderStore → StoreCall → StoreAnswer → FolderStore → Prop where
  | save {store written files : FolderStore} {game : SavedGame}
      (wrote : store.write game.slot game.state = .ok written) (read : written.Rearranges files) :
      Answers store (.save game) (.saved (files.makeRoom game.slot).1) (files.makeRoom game.slot).2
  | refuse {store : FolderStore} {game : SavedGame} {fault : Fault}
      (failed : store.write game.slot game.state = .error fault) :
      Answers store (.save game) (.saved (.error fault)) store
  | load (store : FolderStore) (now : Instant) (id : String) :
      Answers store (.load now id) (.loaded (store.load now id)) store
  | list {store files : FolderStore} (read : store.Rearranges files) :
      Answers store .list (.listed files.list) store
  | delete (store : FolderStore) (id : String) :
      Answers store (.delete id) (.deleted (store.delete id).1) (store.delete id).2

inductive Run : FolderStore → List StoreCall → List StoreAnswer → FolderStore → Prop where
  | done (store : FolderStore) : Run store [] [] store
  | call {store next last : FolderStore} {call : StoreCall} {answer : StoreAnswer}
      {calls : List StoreCall} {answers : List StoreAnswer} (one : Answers store call answer next)
      (rest : Run next calls answers last) : Run store (call :: calls) (answer :: answers) last

def answer (store : FolderStore) : StoreCall → StoreAnswer × FolderStore
  | .save game =>
    let (result, store) := store.save game.slot game.state
    (.saved result, store)
  | .load now id => (.loaded (store.load now id), store)
  | .list => (.listed store.list, store)
  | .delete id =>
    let (result, store) := store.delete id
    (.deleted result, store)

def answers (store : FolderStore) : List StoreCall → List StoreAnswer
  | [] => []
  | call :: calls => (store.answer call).1 :: (store.answer call).2.answers calls

def after (store : FolderStore) (calls : List StoreCall) : FolderStore :=
  calls.foldl (fun store call => (store.answer call).2) store

/-- A folder may well give its files in the order in which they were written. -/
theorem answers_answer (store : FolderStore) (call : StoreCall) :
    Answers store call (store.answer call).1 (store.answer call).2 := by
  cases call with
  | save game =>
    change Answers store (.save game) (.saved (store.save game.slot game.state).1)
      (store.save game.slot game.state).2
    unfold FolderStore.save
    cases wrote : store.write game.slot game.state with
    | ok written => exact .save wrote (.refl written)
    | error fault => exact .refuse wrote
  | load now id => exact .load store now id
  | list => exact .list (.refl store)
  | delete id => exact .delete store id

theorem run_answers (store : FolderStore) (calls : List StoreCall) :
    Run store calls (store.answers calls) (store.after calls) := by
  induction calls generalizing store with
  | nil => exact .done store
  | cons call calls ih => exact .call (store.answers_answer call) (ih _)

end FolderStore

/-! ### Games -/

namespace SavedGame

/-- Games in the order in which they were written, when one more is written. -/
def put (games : List SavedGame) (game : SavedGame) : List SavedGame :=
  games.filter (fun other => other.id != game.id) ++ [game]

def saved (games : List SavedGame) (game : SavedGame) : List SavedGame :=
  if game.isByPlayer then kept none (put games game) else put games game

def answer (games : List SavedGame) : StoreCall → StoreAnswer × List SavedGame
  | .save game => (.saved (pure game.slot), saved games game)
  | .load now id =>
    (.loaded (match games.find? fun game => game.id == id with
      | some game => GameState.ofCopy now id game.archive
      | none => throw (.saving (.slotNotFound id))), games)
  | .list => (.listed (pure ((newestFirst games).map slot)), games)
  | .delete id =>
    (.deleted (pure (games.any fun game => game.id == id)), games.filter fun game => game.id != id)

def after (games : List SavedGame) (calls : List StoreCall) : List SavedGame :=
  calls.foldl (fun games call => (answer games call).2) games

end SavedGame

end InteractiveFiction
