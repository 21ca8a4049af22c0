import InteractiveFiction.Session
import Mathlib.Data.List.DropRight

/-!
What a session tells of the events that were recorded on it.

The events that a session keeps are the last ones of all that were recorded since the last time it
told them: a suffix of a history without bound.  What its engine announced is recorded event by
event (`Session.events_collect`).

* `HistoryCall.batches`: the events recorded before each drain, since the drain before it.
* `HistoryCall.answers_eq`: a drain gives the last `historyLimit` of its batch.
* `HistoryCall.drains_give_latest`: hence nothing is told twice or out of order, and an event is
  told exactly if fewer than `historyLimit` newer ones were recorded before the drain.
-/

set_option autoImplicit false

namespace InteractiveFiction

/-! ## The last of a list -/

section Latest

variable {α : Type} {n : Nat}

theorem rtake_of_length_le {l : List α} (h : l.length ≤ n) : l.rtake n = l := by
  rw [List.rtake, Nat.sub_eq_zero_of_le h, List.drop_zero]

theorem rtake_append_of_le {l r : List α} (h : n ≤ r.length) : (l ++ r).rtake n = r.rtake n := by
  have cut : (l ++ r).length - n = l.length + (r.length - n) := by
    rw [List.length_append]
    omega
  rw [List.rtake, cut, List.drop_length_add_append, List.rtake]

theorem rtake_append_of_ge {l r : List α} (h : r.length ≤ n) :
    (l ++ r).rtake n = l.rtake (n - r.length) ++ r := by
  have cut : (l ++ r).length - n = l.length - (n - r.length) := by
    rw [List.length_append]
    omega
  rw [List.rtake, cut, List.drop_append_of_le_length (by omega), List.rtake]

/-- What is left out of a list stays left out when the list grows. -/
theorem rtake_rtake_append (l r : List α) : (l.rtake n ++ r).rtake n = (l ++ r).rtake n := by
  rcases Nat.le_total n r.length with more | fewer
  · rw [rtake_append_of_le more, rtake_append_of_le more]
  · rw [rtake_append_of_ge fewer, rtake_append_of_ge fewer]
    congr 1
    rw [List.rtake, List.rtake, List.rtake, List.drop_drop, List.length_drop]
    congr 1
    omega

theorem rtake_suffix (l : List α) : l.rtake n <:+ l :=
  List.drop_suffix _ _

end Latest

/-! ## One call -/

namespace Session

variable {session : Session} {since : List EventRecord}

theorem events_record (kept : session.events = since.rtake historyLimit) (event : EventRecord) :
    (session.record event).events = (since ++ [event]).rtake historyLimit := by
  rw [← rtake_rtake_append, ← kept, List.rtake, record]

/-- What the engine announced counts as recorded, event by event. -/
theorem events_collect (kept : session.events = since.rtake historyLimit) :
    session.collect.events = (since ++ session.engine.published).rtake historyLimit := by
  suffices grown : ∀ (events : List EventRecord) (session : Session) (since : List EventRecord),
      session.events = since.rtake historyLimit →
        (events.foldl record session).events = (since ++ events).rtake historyLimit from
    grown session.engine.published session since kept
  intro events
  induction events with
  | nil =>
    intro session since kept
    rw [List.append_nil]
    exact kept
  | cons event events ih =>
    intro session since kept
    rw [List.foldl_cons, ih _ _ (events_record kept event), List.append_assoc]
    rfl

end Session

/-! ## Sequences of calls -/

inductive HistoryCall where
  | record (event : EventRecord)
  | drain

namespace HistoryCall

open Session

/-- What the drains of a sequence give, in order. -/
def answers : List HistoryCall → Session → List (List EventRecord)
  | [], _ => []
  | record event :: calls, session => answers calls (session.record event)
  | drain :: calls, session => session.drain.1 :: answers calls session.drain.2

/-- The events recorded before each drain since the one before it; before the first drain also
those that were recorded earlier. -/
def batches (since : List EventRecord) : List HistoryCall → List (List EventRecord)
  | [] => []
  | record event :: calls => batches (since ++ [event]) calls
  | drain :: calls => since :: batches [] calls

def recorded : List HistoryCall → List EventRecord
  | [] => []
  | record event :: calls => event :: recorded calls
  | drain :: calls => recorded calls

theorem batches_records (since events : List EventRecord) (calls : List HistoryCall) :
    batches since (events.map record ++ calls) = batches (since ++ events) calls := by
  induction events generalizing since with
  | nil => rw [List.append_nil, List.map_nil, List.nil_append]
  | cons event events ih =>
    rw [List.append_cons]
    exact ih (since ++ [event])

theorem flatten_batches_sublist (since : List EventRecord) (calls : List HistoryCall) :
    (batches since calls).flatten.Sublist (since ++ recorded calls) := by
  induction calls generalizing since with
  | nil => exact List.nil_sublist _
  | cons call calls ih =>
    cases call with
    | record event =>
      have further := ih (since ++ [event])
      rw [List.append_assoc] at further
      exact further
    | drain => exact (ih []).append_left since

theorem answers_eq {session : Session} {since : List EventRecord}
    (kept : session.events = since.rtake historyLimit) (calls : List HistoryCall) :
    answers calls session = (batches since calls).map (List.rtake · historyLimit) := by
  induction calls generalizing session since with
  | nil => rfl
  | cons call calls ih =>
    cases call with
    | record event => exact ih (events_record kept event)
    | drain =>
      have forgotten : session.drain.2.events = ([] : List EventRecord).rtake historyLimit := by
        rw [List.rtake_nil]
        rfl
      exact congrArg₂ List.cons kept (ih forgotten)

theorem flatten_map_rtake_sublist {α : Type} {n : Nat} (lists : List (List α)) :
    (lists.map (List.rtake · n)).flatten.Sublist lists.flatten := by
  induction lists with
  | nil => exact .slnil
  | cons list lists ih => exact (rtake_suffix list).sublist.append ih

/-- On a session that keeps no events yet: each drain gives, in order, the last of the events that
were recorded since the drain before it, as many as a session keeps.  So what is told altogether is
among what was recorded, in order and once; an event is told with all newer ones when these are
fewer than a session keeps, and otherwise only newer ones are told. -/
theorem drains_give_latest {session : Session} (unheard : session.events = [])
    (calls : List HistoryCall) :
    answers calls session = (batches [] calls).map (List.rtake · historyLimit) ∧
      (answers calls session).flatten.Sublist (recorded calls) ∧
      ∀ batch ∈ batches [] calls, ∀ past event newer, batch = past ++ event :: newer →
        batch.rtake historyLimit =
          if newer.length < historyLimit then
            past.rtake (historyLimit - (newer.length + 1)) ++ event :: newer
          else newer.rtake historyLimit := by
  have kept : session.events = ([] : List EventRecord).rtake historyLimit := by
    rw [unheard, List.rtake_nil]
  have told := answers_eq kept calls
  refine ⟨told, ?_, ?_⟩
  · rw [told]
    exact (flatten_map_rtake_sublist _).trans (flatten_batches_sublist [] calls)
  · rintro batch - past event newer rfl
    split
    · rename_i few
      exact rtake_append_of_ge few
    · rename_i many
      rw [List.append_cons]
      exact rtake_append_of_le (Nat.not_lt.1 many)

/-! ### A clock that ticks too often -/

def tick (n : Nat) : EventRecord := ⟨⟨"tick", [("i", .int n)]⟩, 0⟩

/-- As many ticks as a session keeps, counted from one. -/
def ticks : List EventRecord := (List.range' 1 historyLimit).map tick

theorem length_ticks : ticks.length = historyLimit := by
  rw [ticks, List.length_map, List.length_range']

theorem tick_zero_notMem_ticks : tick 0 ∉ ticks := by
  intro mem
  obtain ⟨n, among, same⟩ := List.mem_map.1 mem
  have positive := (List.mem_range'_1.1 among).1
  simp only [tick, Document.int, EventRecord.mk.injEq, Event.mk.injEq, List.cons.injEq,
    Prod.mk.injEq, Document.number.injEq, Number.int.injEq, Int.natCast_inj] at same
  omega

def quiet : Session where
  id := "quiet"
  engine := { content := {} }
  createdAt := 0
  lastActivity := 0

/-- A tick before as many others as a session keeps, and one after they were told. -/
def ticking : List HistoryCall :=
  (tick 0 :: ticks).map record ++ [drain, record (tick 0), drain]

theorem batches_ticking : batches [] ticking = [tick 0 :: ticks, [tick 0]] := by
  rw [ticking, batches_records]
  rfl

theorem latest_ticks : (tick 0 :: ticks).rtake historyLimit = ticks := by
  have all := rtake_append_of_le (l := [tick 0]) length_ticks.ge
  rw [rtake_of_length_le length_ticks.le] at all
  exact all

theorem ticks_told_without_first :
    quiet.events = [] ∧ answers ticking quiet = [ticks, [tick 0]] := by
  have unheard : quiet.events = [] := rfl
  have told := (drains_give_latest unheard ticking).1
  rw [batches_ticking] at told
  exact ⟨unheard, told.trans (congrArg₂ List.cons latest_ticks rfl)⟩

/-- An event is not told when there are as many newer ones as a session keeps, and no more. -/
theorem first_tick_lost : ticks.length = historyLimit ∧
    batches [] ((tick 0 :: ticks).map record ++ [drain]) = [tick 0 :: ticks] ∧
    answers ((tick 0 :: ticks).map record ++ [drain]) quiet = [ticks] ∧ tick 0 ∉ ticks := by
  have one : batches [] ((tick 0 :: ticks).map record ++ [drain]) = [tick 0 :: ticks] := by
    rw [batches_records]
    rfl
  have kept : quiet.events = ([] : List EventRecord).rtake historyLimit := rfl
  refine ⟨length_ticks, one, ?_, tick_zero_notMem_ticks⟩
  rw [answers_eq kept, one]
  exact congrArg₂ List.cons latest_ticks rfl

end HistoryCall

end InteractiveFiction
