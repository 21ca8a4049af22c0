import InteractiveFiction.Proofs.Course
import InteractiveFiction.Proofs.Fields
import InteractiveFiction.Proofs.Number.Order
import InteractiveFiction.Story.Decision

/-!
The limit on a timed choice: the one that is reported and the one that is enforced.

The reported limit may have either of two names in the metadata, `timeLimit` or `time_limit`.  What is
enforced has the first name only, and is thirty seconds without it.

* `Choice.InTime`: the time since the start is below the limit that is reported.
* `Choice.DecidesAlike`: both limits decide alike on some time since the start.
* `Choice.passes_in_time_iff`: a choice is let pass exactly when it is in time, if and only if both
  limits decide alike on the time since the start.
-/

set_option autoImplicit false

namespace InteractiveFiction

open Course

namespace Choice

variable (choice : Choice) (startedAt : Document) (now : Instant)

/-- Seconds since the start that the metadata gives, else since the choice was presented. -/
def elapsed : Result Float := do
  pure (now - (← (choice.metadata.getD "startTime" startedAt).toFloat))

/-- There is a start, and the time since then is below the limit that is reported. -/
def InTime : Prop :=
  ∃ elapsed limit, choice.elapsed startedAt now = .ok elapsed ∧ choice.timeLimit = .ok limit ∧
    (Number.float elapsed).lt (.float limit) = true

/-- The limit has its second name only. -/
def LimitRenamed : Prop :=
  choice.metadata.has "timeLimit" = false ∧ choice.metadata.has "time_limit" = true

/-- Both limits decide alike on some time since the start.  If the limit has its second name only, the
time has a place in the order and is below thirty seconds exactly when it is below the limit; else
there is one limit, and it is enough that the time and the limit have a place in the order. -/
def DecidesAlike (elapsed : Float) : Prop :=
  (choice.LimitRenamed → (Number.float elapsed).Compares ∧
    ((Number.float elapsed).lt (.float 30.0) = true ↔
      ∃ limit, choice.timeLimit = .ok limit ∧ (Number.float elapsed).lt (.float limit) = true)) ∧
  (¬ choice.LimitRenamed → ∀ limit, choice.timeLimit = .ok limit →
    (Number.float limit).Compares ∧ (Number.float elapsed).Compares)

variable {choice startedAt now}

/-! ## The limits -/

theorem toFloat_thirty : (Document.int 30).toFloat = .ok 30.0 := by
  have fits : ∀ negative, Binary.ofFloat (Rounding.ofInt 30) ≠ .infinite negative := by
    decide +kernel
  have same : Rounding.ofInt 30 = 30.0 := by decide +kernel
  change (Number.int 30).toFloat? = _
  unfold Number.toFloat?
  dsimp only
  split
  · rename_i infinite
    exact absurd infinite (fits _)
  · exact congrArg Except.ok same

theorem enforcedLimit_of_not_has (absent : choice.metadata.has "timeLimit" = false) :
    choice.enforcedLimit = .ok 30.0 := by
  rw [enforcedLimit, Fields.getD, Fields.lookup_of_not_has (by simp [absent])]
  rfl

theorem enforcedLimit_of_not_renamed (h : ¬ choice.LimitRenamed) :
    choice.enforcedLimit = choice.timeLimit := by
  cases named : choice.metadata.has "timeLimit" with
  | true =>
    obtain ⟨limit, found⟩ := Option.isSome_iff_exists.1 named
    rw [enforcedLimit, timeLimit, Fields.getD, Fields.getD, found]
    rfl
  | false =>
    have absent : ¬ choice.metadata.has "time_limit" = true := fun there => h ⟨named, there⟩
    rw [enforcedLimit_of_not_has named, timeLimit, Fields.getD, Fields.getD,
      Fields.lookup_of_not_has (by simp [named]), Fields.lookup_of_not_has absent]
    exact toFloat_thirty.symm

/-! ## The check -/

/-- Without a start nothing has elapsed. -/
theorem elapsed_ne_ok (missing : choice.metadata.getD "startTime" startedAt = .null)
    (elapsed : Float) : choice.elapsed startedAt now ≠ .ok elapsed := by
  intro runs
  obtain ⟨start, reads, -⟩ := Result.ok_of_bind runs
  rw [missing] at reads
  cases reads

/-- What is let pass has a start and a limit, and the limit is not at most the time that ran. -/
theorem lateness_eq_none_iff : choice.lateness now startedAt = .ok none ↔
    ∃ elapsed limit, choice.elapsed startedAt now = .ok elapsed ∧ choice.enforcedLimit = .ok limit ∧
      (Number.float limit).le (.float elapsed) = false := by
  unfold lateness
  split
  · rename_i missing
    constructor
    · intro passes
      cases passes
    · rintro ⟨elapsed, limit, runs, -⟩
      exact absurd runs (elapsed_ne_ok missing elapsed)
  · constructor
    · intro passes
      obtain ⟨limit, enforced, passes⟩ := Result.ok_of_bind passes
      obtain ⟨start, reads, passes⟩ := Result.ok_of_bind passes
      refine ⟨now - start, limit, ?_, enforced, ?_⟩
      · rw [Choice.elapsed, reads]
        rfl
      · cases exceeded : (Number.float limit).le (.float (now - start)) with
        | false => rfl
        | true =>
          dsimp only at passes
          rw [exceeded] at passes
          cases passes
    · rintro ⟨elapsed, limit, runs, enforced, within⟩
      obtain ⟨start, reads, runs⟩ := Result.ok_of_bind runs
      obtain rfl : now - start = elapsed := Except.ok.inj runs
      rw [enforced, reads]
      change Except.ok (if (Number.float limit).le (.float (now - start)) = true then _ else none) = _
      rw [within]
      rfl

section Running

variable {elapsed : Float} (runs : choice.elapsed startedAt now = .ok elapsed)

include runs

theorem passes_iff : choice.lateness now startedAt = .ok none ↔
    ∃ limit, choice.enforcedLimit = .ok limit ∧ (Number.float limit).le (.float elapsed) = false := by
  simp only [lateness_eq_none_iff, runs, Except.ok.injEq, exists_and_left, exists_eq_left']

theorem inTime_iff : choice.InTime startedAt now ↔
    ∃ limit, choice.timeLimit = .ok limit ∧ (Number.float elapsed).lt (.float limit) = true := by
  simp only [InTime, runs, Except.ok.injEq, exists_and_left, exists_eq_left']

theorem passes_in_time_of_renamed (renamed : choice.LimitRenamed) :
    (choice.lateness now startedAt = .ok none ↔ choice.InTime startedAt now) ↔
      (Number.float elapsed).Compares ∧
        ((Number.float elapsed).lt (.float 30.0) = true ↔ choice.InTime startedAt now) := by
  have passes : choice.lateness now startedAt = .ok none ↔
      (Number.float 30.0).le (.float elapsed) = false := by
    rw [passes_iff runs, enforcedLimit_of_not_has renamed.1]
    simp only [Except.ok.injEq, exists_eq_left']
  have thirty : (Number.float 30.0).Compares := by decide +kernel
  rw [passes]
  by_cases ordered : (Number.float elapsed).Compares
  · rw [Number.not_le_iff_lt_iff.2 ⟨thirty, ordered⟩]
    simp [ordered]
  · have kept : (Number.float 30.0).le (.float elapsed) = false :=
      Bool.eq_false_iff.2 fun le => ordered (Number.compares_of_le le).2
    have untimely : ¬ choice.InTime startedAt now := fun inTime => by
      obtain ⟨limit, -, below⟩ := (inTime_iff runs).1 inTime
      exact ordered (Number.compares_of_le (Number.le_of_lt below)).1
    simp [kept, untimely, ordered]

theorem passes_in_time_of_not_renamed (named : ¬ choice.LimitRenamed) :
    (choice.lateness now startedAt = .ok none ↔ choice.InTime startedAt now) ↔
      ∀ limit, choice.timeLimit = .ok limit →
        (Number.float limit).Compares ∧ (Number.float elapsed).Compares := by
  rw [passes_iff runs, inTime_iff runs, enforcedLimit_of_not_renamed named]
  cases reported : choice.timeLimit with
  | error fault => simp
  | ok limit =>
    simp only [Except.ok.injEq, exists_eq_left', forall_eq']
    exact Number.not_le_iff_lt_iff

end Running

/-- A choice is let pass exactly when it is in time, if and only if both limits decide alike on the
time since the start, where there is one. -/
theorem passes_in_time_iff (choice : Choice) (startedAt : Document) (now : Instant) :
    (choice.lateness now startedAt = .ok none ↔ choice.InTime startedAt now) ↔
      ∀ elapsed, choice.elapsed startedAt now = .ok elapsed → choice.DecidesAlike elapsed := by
  cases runs : choice.elapsed startedAt now with
  | error fault => simp [lateness_eq_none_iff, InTime, runs]
  | ok elapsed =>
    have only : (∀ other, Except.ok (ε := Fault) elapsed = .ok other → choice.DecidesAlike other) ↔
        choice.DecidesAlike elapsed := by simp
    rw [only, DecidesAlike]
    by_cases renamed : choice.LimitRenamed
    · rw [passes_in_time_of_renamed runs renamed, inTime_iff runs]
      simp [renamed]
    · rw [passes_in_time_of_not_renamed runs renamed]
      simp [renamed]

/-! ### A dash that takes too long -/

/-- A choice to be made within five seconds, which the author wrote under the second name. -/
def dash : Choice :=
  { id := "dash", text := "Dash", type := .timed, metadata := [("time_limit", .int 5)] }

theorem dash_passes_late : (outcome (ofDocument dash.toDocument) 0).1 = .ok dash ∧
    dash.type = .timed ∧ dash.timeLimit = .ok 5.0 ∧
      dash.elapsed (.float 999990.0) 1000000.0 = .ok 10.0 ∧
      dash.lateness 1000000.0 (.float 999990.0) = .ok none ∧
      ¬ dash.InTime (.float 999990.0) 1000000.0 := by
  have five : dash.timeLimit = .ok 5.0 := Result.ok_of_toOption (by decide +kernel)
  have ten : dash.elapsed (.float 999990.0) 1000000.0 = .ok 10.0 :=
    Result.ok_of_toOption (by decide +kernel)
  refine ⟨rfl, rfl, five, ten, Result.ok_of_toOption (by decide +kernel), ?_⟩
  rintro ⟨elapsed, limit, runs, reported, below⟩
  obtain rfl : 10.0 = elapsed := Except.ok.inj (ten.symm.trans runs)
  obtain rfl : 5.0 = limit := Except.ok.inj (five.symm.trans reported)
  have exceeded : (Number.float 10.0).lt (.float 5.0) = false := by decide +kernel
  rw [exceeded] at below
  cases below

end Choice

end InteractiveFiction
