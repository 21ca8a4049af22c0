import InteractiveFiction.Proofs.Dispatcher.Evolution

/-!
What a dispatcher does with one bundle.

* `performPart_ends`: one part is done as on any stage, and what is submitted meanwhile waits.
* `performAll_tracks`, `performAll_stretches`: so are all parts of a bundle.
* `worked_of_ok`, `failed_of_error`: all parts were done, or one failed and ended the bundle.
* `run_of_ok`, `run_of_error`: a bundle that was applied is closed; what is submitted when that is
  heard of is applied at once.
-/

set_option autoImplicit false

namespace InteractiveFiction

open Course

namespace Dispatcher

/-! ## Steps of a dispatcher -/

section Steps

variable {α : Type} (first : Dispatcher)

theorem outcome_act (action : Action α) :
    outcome (act action) first =
      (.ok (result action first.stage.silent, (after action first.stage.silent).published),
        { first with
          stage := { after action first.stage.silent with published := first.stage.published } }) :=
  rfl

theorem outcome_note (entries : List JournalEntry) :
    outcome (note entries) first =
      (.ok (), { first with journal := first.journal ++ entries }) :=
  rfl

theorem outcome_ofResult (r : Result α) : outcome (ofResult r) first = (r, first) := by
  cases r <;> rfl

end Steps

/-! ## Stretches of a bundle -/

/-- Some parts of a bundle were done. -/
structure Stretch (batch : Batch) (first : Dispatcher) (body : Journal) (outcomes : List Outcome)
    (last : Dispatcher) : Prop extends Extends 0 first body last where
  busy : last.applying = true
  open_ : closings last.stage.published = closings first.stage.published
  quiet : body.Quiet
  performed : body.performances = outcomes.map fun outcome => (batch, outcome)
  queue : last.queue = first.queue ++ body.submissions

namespace Stretch

variable {batch : Batch} {first between last : Dispatcher} {body body' : Journal}
  {outcomes outcomes' : List Outcome}

theorem refl (busy : first.applying = true) : Stretch batch first [] [] first where
  toExtends := .refl first
  busy := busy
  open_ := rfl
  quiet := by simp [Journal.Quiet]
  performed := rfl
  queue := by simp

theorem trans (h : Stretch batch first body outcomes between)
    (h' : Stretch batch between body' outcomes' last) :
    Stretch batch first (body ++ body') (outcomes ++ outcomes') last where
  toExtends := h.toExtends.trans h'.toExtends
  busy := h'.busy
  open_ := h'.open_.trans h.open_
  quiet := by
    rw [Journal.quiet_append]
    exact ⟨h.quiet, h'.quiet⟩
  performed := by
    rw [Journal.performances_append, h.performed, h'.performed, List.map_append]
  queue := by rw [h'.queue, h.queue, Journal.submissions_append, List.append_assoc]

/-- While events are heard no part is done. -/
theorem of_evolves (h : Evolves 0 first body last) (busy : first.applying = true) :
    Stretch batch first body [] last where
  toExtends := h.toExtends
  busy := h.applying.trans busy
  open_ := by
    have quiet := (h.waits busy).quiet
    obtain ⟨added, published, perm⟩ := h.closes
    rw [quiet.announced, List.perm_nil] at perm
    rw [published, perm, List.append_nil]
  quiet := (h.waits busy).quiet
  performed := (h.waits busy).performances
  queue := (h.waits busy).queue

end Stretch

/-! ## Parts -/

/-- What became of a part, if it did not fail. -/
def given : Result Outcome → List Outcome
  | .ok outcome => [outcome]
  | .error _ => []

theorem performance_stretches (batch : Batch) (r : Result Outcome) (stage : Stage)
    {first : Dispatcher} (busy : first.applying = true)
    (published : stage.published = first.stage.published) :
    Stretch batch first (performance batch r) (given r)
      { first with stage, journal := first.journal ++ performance batch r } where
  journal := rfl
  numbered := by cases r <;> rfl
  pending := Nat.le_refl _
  load := Nat.le_refl _
  busy := busy
  open_ := congrArg closings published
  quiet := by cases r <;> simp [performance, Journal.Quiet]
  performed := by cases r <;> rfl
  queue := by cases r <;> simp [performance]

section Parts

variable {submit : Submission → Dispatching (List Outcome)}
  (h : ∀ submission first, Evolving 1 first (after (submit submission) first)) (batch : Batch)

include h

theorem performPart_ends {part : Action Outcome} (heedless : Heedless part) {first : Dispatcher}
    (busy : first.applying = true) :
    ∃ body last, outcome (performPart submit batch part) first =
        (result (Effect.perform part) first.stage.silent, last) ∧
      Stretch batch first body (given (result (Effect.perform part) first.stage.silent)) last ∧
      last.stage.silent = (after (Effect.perform part) first.stage.silent).silent := by
  let r := result (Effect.perform part) first.stage.silent
  let left := after (Effect.perform part) first.stage.silent
  let stage : Stage := { left with published := first.stage.published }
  have alike : first.stage.silent.Alike first.stage.silent := ⟨rfl, rfl⟩
  have open_ : closings left.published = [] :=
    (Effect.perform_heedless heedless _ _ alike).2.closings
  let middle : Dispatcher :=
    { first with stage, journal := first.journal ++ performance batch r }
  obtain ⟨_, last, heard, entries, evolves⟩ := hearAll_evolves h open_ middle
  refine ⟨performance batch r ++ entries, last, ?_, ?_, (evolves.waits busy).stage⟩
  · rw [performPart, outcome_bind_of_ok (outcome_act first _), outcome_bind_of_ok (outcome_note _ _),
      outcome_bind_of_ok heard, outcome_ofResult]
  · have own : Stretch batch first (performance batch r) (given r) middle :=
      performance_stretches batch r stage busy rfl
    have whole := own.trans (.of_evolves evolves busy)
    rw [List.append_nil] at whole
    exact whole

variable {batch}

/-- A dispatcher that applies a bundle, beside a stage on which nobody hears of it. -/
def Beside (dispatcher : Dispatcher) (stage : Stage) : Prop :=
  dispatcher.applying = true ∧ dispatcher.stage.silent = stage.silent

theorem performPart_tracks {part : Action Outcome} (heedless : Heedless part) :
    Tracks Beside (performPart submit batch part) (Effect.perform part) := by
  intro first stage beside
  obtain ⟨busy, same⟩ := beside
  obtain ⟨body, last, ends, stretch, left⟩ := performPart_ends h batch heedless busy
  obtain ⟨result', after'⟩ :=
    (Effect.perform_heedless heedless).tracks_silent first.stage.silent stage same
  rw [result, after, ends]
  exact ⟨result', stretch.busy, left.trans after'⟩

theorem performAll_tracks (effect : Effect) :
    Tracks Beside (effect.parts.mapM (performPart submit batch)) effect.apply :=
  .mapM effect.parts fun part mem => performPart_tracks h (effect.parts_heedless part mem)

theorem performAll_stretches {parts : List (Action Outcome)} (heedless : ∀ part ∈ parts, Heedless part)
    {first last : Dispatcher} (busy : first.applying = true) {r : Except Fault (List Outcome)}
    (ends : outcome (parts.mapM (performPart submit batch)) first = (r, last)) :
    ∃ body outcomes, Stretch batch first body outcomes last ∧
      ∀ results, r = .ok results → outcomes = results := by
  induction parts generalizing first last r with
  | nil =>
    cases ends
    exact ⟨[], [], .refl busy, fun results h => Except.ok.inj h⟩
  | cons part parts ih =>
    obtain ⟨body, between, step, stretch, -⟩ :=
      performPart_ends h batch (heedless part (by simp)) busy
    rw [List.mapM_cons] at ends
    cases one : result (Effect.perform part) first.stage.silent with
    | error fault =>
      rw [one] at step
      rw [outcome_bind_of_error step] at ends
      cases ends
      exact ⟨body, _, stretch, by simp⟩
    | ok outcome =>
      rw [one] at step stretch
      rw [outcome_bind_of_ok step] at ends
      rcases rest : Course.outcome (parts.mapM (performPart submit batch)) between with ⟨r', last'⟩
      obtain ⟨body', outcomes, stretch', given'⟩ :=
        ih (fun part mem => heedless part (by simp [mem])) stretch.busy rest
      have whole := stretch.trans stretch'
      cases r' with
      | error fault =>
        rw [outcome_bind_of_error rest] at ends
        cases ends
        exact ⟨_, _, whole, by simp⟩
      | ok results =>
        rw [outcome_bind_of_ok rest] at ends
        cases ends
        refine ⟨_, _, whole, fun results' same => ?_⟩
        rw [given' results rfl]
        exact Except.ok.inj same

/-! ## Bundles -/

omit h in
theorem outcome_applyParts (queued : Bool) {first worked : Dispatcher}
    {r : Except Fault (List Outcome)}
    (parts : outcome (batch.effect.parts.mapM (performPart submit batch))
      { first with applying := true } = (r, worked)) :
    outcome (applyParts submit batch queued) first = (r, { worked with
      applying := false, journal := worked.journal ++ [match r with
        | .ok outcomes => .applied batch queued outcomes
        | .error _ => .failed batch queued worked.queue.length] }) := by
  have enters (next : Unit → Dispatching (List Outcome)) :
      outcome ((modify fun d => { d with applying := true }) >>= next) first =
        outcome (next ()) { first with applying := true } := rfl
  rw [applyParts, enters, outcome_tryCatch]
  cases r with
  | ok outcomes =>
    rw [outcome_bind_of_ok parts]
    rfl
  | error fault =>
    rw [outcome_bind_of_error parts]
    rfl

/-- All parts of a bundle were done, and others may be applied again. -/
structure Worked (batch : Batch) (queued : Bool) (first : Dispatcher) (body : Journal)
    (outcomes : List Outcome) (last : Dispatcher) : Prop
    extends Extends 0 first (body ++ [.applied batch queued outcomes]) last where
  idle : last.applying = false
  open_ : closings last.stage.published = closings first.stage.published
  quiet : body.Quiet
  performed : body.performances = outcomes.map fun outcome => (batch, outcome)
  queue : last.queue = first.queue ++ body.submissions
  alone : ∃ stage, outcome batch.effect.apply first.stage.silent = (.ok outcomes, stage) ∧
    last.stage.silent = stage.silent

omit h in
theorem Stretch.extends_noting {first worked : Dispatcher} {body : Journal} {outcomes : List Outcome}
    (stretch : Stretch batch { first with applying := true } body outcomes worked)
    {entry : JournalEntry} (none : entry.submission? = none) :
    Extends 0 first (body ++ [entry])
      { worked with applying := false, journal := worked.journal ++ [entry] } := by
  have parts : Extends 0 first body worked := { stretch.toExtends with }
  have nothing : Journal.submissions [entry] = [] := by
    rw [Journal.submissions_cons, none]
    rfl
  have noted : Extends 0 worked [entry]
      { worked with applying := false, journal := worked.journal ++ [entry] } :=
    { Extends.refl worked with journal := rfl, numbered := by rw [nothing]; rfl }
  exact parts.trans noted

theorem worked_of_ok {queued : Bool} {first last : Dispatcher} {outcomes : List Outcome}
    (ends : outcome (applyParts submit batch queued) first = (.ok outcomes, last)) :
    ∃ body, Worked batch queued first body outcomes last := by
  rcases parts : outcome (batch.effect.parts.mapM (performPart submit batch))
    { first with applying := true } with ⟨r, worked⟩
  rw [outcome_applyParts queued parts] at ends
  cases ends
  obtain ⟨body, given, stretch, same⟩ :=
    performAll_stretches h batch.effect.parts_heedless rfl parts
  obtain rfl : given = outcomes := same outcomes rfl
  have beside : Beside { first with applying := true } first.stage.silent := ⟨rfl, rfl⟩
  obtain ⟨stage, alone, -, left⟩ := (performAll_tracks h batch.effect).of_outcome beside parts
  exact ⟨body, {
    toExtends := stretch.extends_noting rfl
    idle := rfl
    open_ := stretch.open_
    quiet := stretch.quiet
    performed := stretch.performed
    queue := stretch.queue
    alone := ⟨stage, alone, left⟩ }⟩

/-- A part of a bundle failed, and others may be applied again. -/
structure Failed (batch : Batch) (queued : Bool) (first : Dispatcher) (body : Journal)
    (last : Dispatcher) : Prop
    extends Extends 0 first (body ++ [.failed batch queued last.queue.length]) last where
  closes : Closes first (body ++ [.failed batch queued last.queue.length]) last
  idle : last.applying = false

theorem failed_of_error {queued : Bool} {first last : Dispatcher} {fault : Fault}
    (ends : outcome (applyParts submit batch queued) first = (.error fault, last)) :
    ∃ body, Failed batch queued first body last := by
  rcases parts : outcome (batch.effect.parts.mapM (performPart submit batch))
    { first with applying := true } with ⟨r, worked⟩
  rw [outcome_applyParts queued parts] at ends
  cases ends
  obtain ⟨body, given, stretch, -⟩ := performAll_stretches h batch.effect.parts_heedless rfl parts
  have announced : Journal.announced (body ++ [.failed batch queued worked.queue.length]) = [] := by
    rw [Journal.announced_append, stretch.quiet.announced]
    rfl
  exact ⟨body, {
    toExtends := stretch.extends_noting rfl
    closes := .of_silence stretch.open_ announced
    idle := rfl }⟩

/-! ## Closing a bundle -/

def touched (dispatcher : Dispatcher) : Dispatcher :=
  { dispatcher with stage := { dispatcher.stage with
      state := dispatcher.stage.state.touch dispatcher.stage.now } }

/-- Everyone heard that a bundle was applied, then the event was published. -/
structure Closed (outcomes : List Outcome) (queued : Bool) (first : Dispatcher) (entries : Journal)
    (last : Dispatcher) : Prop extends Extends 0 first entries last where
  applying : last.applying = first.applying
  still : entries = [] → last.queue = first.queue
  stuck : Stuck entries last
  works : first.applying = false → entries.Clean → Trace first.touched.rest entries last.rest
  closes : ∃ added, closings last.stage.published = closings first.stage.published ++
    (added ++ [.effectsProcessed (outcomes.map Outcome.toDocument) queued]) ∧
    added.Perm entries.announced

theorem closed_of_announce (outcomes : List Outcome) (queued : Bool) (first : Dispatcher) :
    ∃ entries last, outcome (announce submit (Effect.finish outcomes queued)) first =
      (.ok (), last) ∧ Closed outcomes queued first entries last := by
  let record : EventRecord :=
    ⟨.effectsProcessed (outcomes.map Outcome.toDocument) queued, first.stage.now⟩
  have acts : outcome (act (Effect.finish outcomes queued)) first =
      (.ok (.ok (), [record]), first.touched) := rfl
  obtain ⟨heard, ⟨entries, evolves⟩, hears⟩ := hear_ends h record first.touched
  let last : Dispatcher :=
    { heard with stage := { heard.stage with published := heard.stage.published ++ [record] } }
  have hearsAll : outcome (hearAll submit [record]) first.touched = (.ok (), last) := by
    rw [hearAll, List.forIn_cons, outcome_bind, outcome_bind, outcome_bind, hears]
    rfl
  have announces : outcome (announce submit (Effect.finish outcomes queued)) first =
      (.ok (), last) := by
    rw [announce, outcome_bind_of_ok acts, outcome_bind_of_ok hearsAll]
    rfl
  obtain ⟨added, published, perm⟩ := evolves.closes
  have published' : closings last.stage.published =
      closings first.stage.published ++ (added ++ [record.event]) := by
    have one : closings [record] = [record.event] := rfl
    rw [closings_append, published, one, List.append_assoc]
    rfl
  exact ⟨entries, last, announces, { evolves with closes := ⟨added, published', perm⟩ }⟩

/-! ## Running a bundle -/

/-- A bundle was applied and closed; what was submitted when that was heard of came after it. -/
structure Ran (batch : Batch) (queued : Bool) (first : Dispatcher) (body : Journal)
    (outcomes : List Outcome) (entries : Journal) (last : Dispatcher) : Prop
    extends Extends 0 first (body ++ .applied batch queued outcomes :: entries) last where
  closes : Closes first (body ++ .applied batch queued outcomes :: entries) last
  idle : last.applying = false
  stuck : Stuck (body ++ .applied batch queued outcomes :: entries) last
  works : entries.Clean →
    ∃ between, Block batch first.rest body outcomes between ∧ Trace between entries last.rest

omit h in
theorem Worked.block {queued : Bool} {first last : Dispatcher} {body : Journal}
    {outcomes : List Outcome} (worked : Worked batch queued first body outcomes last) :
    Block batch first.rest body outcomes last.touched.rest where
  quiet := worked.quiet
  performed := worked.performed
  waits := worked.queue
  alone := by
    obtain ⟨stage, alone, left⟩ := worked.alone
    refine ⟨after (Effect.finish outcomes false) stage, ?_, ?_⟩
    · rw [Effect.process, rest, outcome_bind_of_ok alone]
      rfl
    · have finished : last.touched.stage.silent =
          (fun stage : Stage => { stage with state := stage.state.touch stage.now })
            last.stage.silent := rfl
      rw [rest, finished, left]
      rfl

omit h in
theorem Worked.ran {queued : Bool} {first middle last : Dispatcher} {body entries : Journal}
    {outcomes : List Outcome} (worked : Worked batch queued first body outcomes middle)
    (closed : Closed outcomes queued middle entries last) :
    Ran batch queued first body outcomes entries last := by
  have whole := worked.toExtends.trans closed.toExtends
  rw [List.append_assoc, List.singleton_append] at whole
  refine { toExtends := whole, closes := ?_, idle := ?_, stuck := ?_, works := ?_ }
  · -- the event that closes the bundle comes after those of the bundles applied meanwhile
    obtain ⟨added, published, perm⟩ := closed.closes
    refine ⟨_, by rw [published, worked.open_], ?_⟩
    have announced : Journal.announced (body ++ .applied batch queued outcomes :: entries) =
        .effectsProcessed (outcomes.map Outcome.toDocument) queued :: entries.announced := by
      rw [Journal.announced_append, worked.quiet.announced]
      rfl
    rw [announced]
    exact List.perm_append_comm.trans (perm.cons _)
  · rw [closed.applying, worked.idle]
  · have noted : Stuck (body ++ [.applied batch queued outcomes]) middle := by simp [Stuck]
    have stuck := noted.append closed.stuck closed.still
    rwa [List.append_assoc, List.singleton_append] at stuck
  · intro clean
    exact ⟨_, worked.block, closed.works worked.idle clean⟩

theorem run_of_ok {queued : Bool} {first last : Dispatcher} {outcomes : List Outcome}
    (ends : outcome (run submit batch queued) first = (.ok outcomes, last)) :
    ∃ body entries, Ran batch queued first body outcomes entries last := by
  obtain ⟨outcomes', middle, applied, finishes⟩ := ok_of_outcome_bind ends
  obtain ⟨body, worked⟩ := worked_of_ok h applied
  obtain ⟨entries, last', announces, closed⟩ := closed_of_announce h outcomes' queued middle
  rw [outcome_bind_of_ok announces] at finishes
  cases finishes
  exact ⟨body, entries, worked.ran closed⟩

theorem run_of_error {queued : Bool} {first last : Dispatcher} {fault : Fault}
    (ends : outcome (run submit batch queued) first = (.error fault, last)) :
    ∃ body, Failed batch queued first body last := by
  obtain failed | ⟨outcomes, middle, applied, failed⟩ := error_of_outcome_bind ends
  · exact failed_of_error h failed
  · -- closing a bundle never fails
    obtain ⟨entries, last', announces, -⟩ := closed_of_announce h outcomes queued middle
    rw [outcome_bind_of_ok announces] at failed
    cases failed

end Parts

end Dispatcher

end InteractiveFiction
