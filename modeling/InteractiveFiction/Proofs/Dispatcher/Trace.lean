import InteractiveFiction.Effect.Application
import InteractiveFiction.Effect.Journal
import InteractiveFiction.Event
import InteractiveFiction.Proofs.Course
import InteractiveFiction.Proofs.Effect.Heedless

/-!
What a journal tells, and what bundles do that are applied one after another while others are
submitted.

* `Journal.submissions`, `Journal.applications`, `Journal.performances`: the bundles that were
  submitted, those that were applied, and the parts that were done, each in order.
* `Journal.announced`: the closing events of the bundles that were applied.
* `Journal.Clean`: no bundle failed.
* `Journal.Orderly`: no bundle was applied ahead of one that waited.
* `Journal.Quiet`: the entries between the start and the end of one bundle.
* `Rest`: what matters of a dispatcher between two bundles.
* `Waits`: what is submitted while a bundle is being applied.
* `Block`: one bundle is applied; what is submitted meanwhile waits behind what waited before.
* `Trace`: blocks one after another, each of a bundle just submitted or of the first that waited.

Along a trace each bundle is accounted for, the parts of different bundles do not mix, and the stage
is what the bundles make of it one by one (`Trace.accounts`, `Trace.performances_eq`,
`Trace.replays`).  Bundles are applied in the order of their submission exactly when none is
submitted between two bundles while another waits (`Trace.in_order_iff`).
-/

set_option autoImplicit false

namespace InteractiveFiction

/-- A bundle that was applied, with what became of its parts. -/
structure Application where
  batch : Batch
  queued : Bool
  outcomes : List Outcome
deriving DecidableEq

def Application.closing (application : Application) : Event :=
  .effectsProcessed (application.outcomes.map Outcome.toDocument) application.queued

def Application.performances (application : Application) : List (Batch × Outcome) :=
  application.outcomes.map fun outcome => (application.batch, outcome)

/-! ## Entries -/

namespace JournalEntry

attribute [simp] submission?

@[simp] def application? : JournalEntry → Option Application
  | .applied batch queued outcomes => some ⟨batch, queued, outcomes⟩
  | _ => none

@[simp] def performance? : JournalEntry → Option (Batch × Outcome)
  | .performed batch outcome => some (batch, outcome)
  | _ => none

@[simp] def isFailure : JournalEntry → Bool
  | .failed _ _ _ => true
  | _ => false

/-- Submitted while none was being applied, though others waited: it is applied before them. -/
@[simp] def overtakes : JournalEntry → Bool
  | .submitted _ waiting applying => !applying && decide (0 < waiting)
  | _ => false

@[simp] def isQuiet : JournalEntry → Bool
  | .submitted _ _ applying => applying
  | .performed _ _ => true
  | _ => false

end JournalEntry

/-! ## Journals -/

namespace Journal

def applications (journal : Journal) : List Application :=
  journal.filterMap JournalEntry.application?

def applied (journal : Journal) : List Batch :=
  journal.applications.map Application.batch

def performances (journal : Journal) : List (Batch × Outcome) :=
  journal.filterMap JournalEntry.performance?

def announced (journal : Journal) : List Event :=
  journal.applications.map Application.closing

def Clean (journal : Journal) : Prop :=
  ∀ entry ∈ journal, entry.isFailure = false

def Orderly (journal : Journal) : Prop :=
  ∀ entry ∈ journal, entry.overtakes = false

def Quiet (journal : Journal) : Prop :=
  ∀ entry ∈ journal, entry.isQuiet = true

instance (journal : Journal) : Decidable journal.Clean :=
  inferInstanceAs (Decidable (∀ entry ∈ journal, entry.isFailure = false))

instance (journal : Journal) : Decidable journal.Orderly :=
  inferInstanceAs (Decidable (∀ entry ∈ journal, entry.overtakes = false))

variable (entry : JournalEntry) (journal journal' : Journal)

/-! ### One entry more -/

@[simp] theorem submissions_nil : submissions [] = [] := rfl

@[simp] theorem submissions_cons :
    submissions (entry :: journal) = entry.submission?.toList ++ submissions journal := by
  cases entry <;> rfl

@[simp] theorem applications_nil : applications [] = [] := rfl

@[simp] theorem applications_cons :
    applications (entry :: journal) = entry.application?.toList ++ applications journal := by
  cases entry <;> rfl

@[simp] theorem performances_nil : performances [] = [] := rfl

@[simp] theorem performances_cons :
    performances (entry :: journal) = entry.performance?.toList ++ performances journal := by
  cases entry <;> rfl

@[simp] theorem clean_cons : Clean (entry :: journal) ↔ entry.isFailure = false ∧ journal.Clean :=
  List.forall_mem_cons

@[simp] theorem orderly_cons :
    Orderly (entry :: journal) ↔ entry.overtakes = false ∧ journal.Orderly :=
  List.forall_mem_cons

/-! ### One journal after another -/

@[simp] theorem submissions_append :
    submissions (journal ++ journal') = journal.submissions ++ journal'.submissions :=
  List.filterMap_append

@[simp] theorem applications_append :
    applications (journal ++ journal') = journal.applications ++ journal'.applications :=
  List.filterMap_append

@[simp] theorem performances_append :
    performances (journal ++ journal') = journal.performances ++ journal'.performances :=
  List.filterMap_append

@[simp] theorem announced_append :
    announced (journal ++ journal') = journal.announced ++ journal'.announced := by
  rw [announced, applications_append, List.map_append]
  rfl

@[simp] theorem clean_append : Clean (journal ++ journal') ↔ journal.Clean ∧ journal'.Clean :=
  List.forall_mem_append

@[simp] theorem orderly_append :
    Orderly (journal ++ journal') ↔ journal.Orderly ∧ journal'.Orderly :=
  List.forall_mem_append

@[simp] theorem quiet_append : Quiet (journal ++ journal') ↔ journal.Quiet ∧ journal'.Quiet :=
  List.forall_mem_append

/-! ### While a bundle is being applied -/

variable {journal}

theorem Quiet.applications (h : journal.Quiet) : journal.applications = [] := by
  rw [Journal.applications, List.filterMap_eq_nil_iff]
  intro entry mem
  have quiet := h entry mem
  cases entry <;> simp_all

theorem Quiet.announced (h : journal.Quiet) : journal.announced = [] := by
  rw [Journal.announced, h.applications, List.map_nil]

theorem Quiet.orderly (h : journal.Quiet) : journal.Orderly := by
  intro entry mem
  have quiet := h entry mem
  cases entry <;> simp_all

end Journal

open Course Journal

/-! ## Bundles applied alone -/

def Batch.processAll (batches : List Batch) : Action (List (List Outcome)) :=
  batches.mapM fun batch => batch.effect.process

theorem Batch.processAll_cons {batch : Batch} {batches : List Batch} {stage between last : Stage}
    {outcomes : List Outcome} {others : List (List Outcome)}
    (one : outcome batch.effect.process stage = (.ok outcomes, between))
    (rest : outcome (processAll batches) between = (.ok others, last)) :
    outcome (processAll (batch :: batches)) stage = (.ok (outcomes :: others), last) := by
  rw [processAll, List.mapM_cons, outcome_bind_of_ok one]
  exact outcome_bind_of_ok rest _

/-! ## Blocks -/

/-- A dispatcher between two bundles: what waits, and the stage apart from what was published. -/
structure Rest where
  queue : List Batch
  stage : Stage

structure Waits (before : Rest) (body : Journal) (after : Rest) : Prop where
  quiet : body.Quiet
  performances : body.performances = []
  queue : after.queue = before.queue ++ body.submissions
  stage : after.stage = before.stage

namespace Waits

variable {first between last : Rest} {body body' : Journal}

theorem refl (rest : Rest) : Waits rest [] rest :=
  ⟨by simp [Quiet], rfl, by simp, rfl⟩

theorem trans (h : Waits first body between) (h' : Waits between body' last) :
    Waits first (body ++ body') last where
  quiet := by
    rw [quiet_append]
    exact ⟨h.quiet, h'.quiet⟩
  performances := by
    rw [performances_append, h.performances, h'.performances]
    rfl
  queue := by rw [h'.queue, h.queue, submissions_append, List.append_assoc]
  stage := h'.stage.trans h.stage

end Waits

/-- A bundle is applied.  The stage is as the bundle would leave it on its own. -/
structure Block (batch : Batch) (before : Rest) (body : Journal) (outcomes : List Outcome)
    (after : Rest) : Prop where
  quiet : body.Quiet
  performed : body.performances = outcomes.map fun outcome => (batch, outcome)
  waits : after.queue = before.queue ++ body.submissions
  alone : ∃ stage, outcome batch.effect.process before.stage = (.ok outcomes, stage) ∧
    stage.silent = after.stage

namespace Block

variable {batch : Batch} {before after : Rest} {body : Journal} {outcomes : List Outcome}

theorem applications_append (block : Block batch before body outcomes after) (queued : Bool)
    (entries : Journal) :
    applications (body ++ .applied batch queued outcomes :: entries) =
      ⟨batch, queued, outcomes⟩ :: applications entries := by
  simp [block.quiet.applications]

/-- A block on any stage that differs in what was published only. -/
theorem replays (block : Block batch before body outcomes after) {stage : Stage}
    (start : stage.silent = before.stage.silent) :
    ∃ stage', outcome batch.effect.process stage = (.ok outcomes, stage') ∧
      stage'.silent = after.stage.silent := by
  obtain ⟨alone, ends, left⟩ := block.alone
  obtain ⟨stage', ends', same⟩ := batch.effect.process_silently.of_outcome start.symm ends
  refine ⟨stage', ends', ?_⟩
  rw [← same, ← left]
  rfl

end Block

/-! ## Traces -/

inductive Trace : Rest → Journal → Rest → Prop where
  | refl (rest : Rest) : Trace rest [] rest
  /-- A bundle is submitted and applied at once, whatever waits. -/
  | direct {batch : Batch} {queue : List Batch} {stage : Stage} {body entries : Journal}
      {outcomes : List Outcome} {between last : Rest}
      (block : Block batch ⟨queue, stage⟩ body outcomes between)
      (after : Trace between entries last) :
      Trace ⟨queue, stage⟩
        (.submitted batch queue.length false :: (body ++ .applied batch false outcomes :: entries))
        last
  /-- The first bundle that waits is applied. -/
  | queued {batch : Batch} {queue : List Batch} {stage : Stage} {body entries : Journal}
      {outcomes : List Outcome} {between last : Rest}
      (block : Block batch ⟨queue, stage⟩ body outcomes between)
      (after : Trace between entries last) :
      Trace ⟨batch :: queue, stage⟩ (body ++ .applied batch true outcomes :: entries) last

namespace Trace

variable {first between last : Rest} {entries entries' : Journal}

theorem trans (h : Trace first entries between) (h' : Trace between entries' last) :
    Trace first (entries ++ entries') last := by
  induction h with
  | refl => exact h'
  | direct block _ ih =>
    have step := direct block (ih h')
    simpa using step
  | queued block _ ih =>
    have step := queued block (ih h')
    simpa using step

theorem accounts (h : Trace first entries last) :
    (first.queue ++ entries.submissions).Perm (entries.applied ++ last.queue) := by
  induction h with
  | refl => simp [applied]
  | @direct batch queue stage body entries outcomes between last block after ih =>
    have applies := block.applications_append false entries
    have waits : between.queue = queue ++ body.submissions := block.waits
    rw [waits, List.append_assoc] at ih
    have moved : (queue ++ batch :: (body.submissions ++ entries.submissions)).Perm
        (batch :: (queue ++ (body.submissions ++ entries.submissions))) := List.perm_middle
    simpa [applied, applies] using moved.trans (ih.cons batch)
  | @queued batch queue stage body entries outcomes between last block after ih =>
    have applies := block.applications_append true entries
    have waits : between.queue = queue ++ body.submissions := block.waits
    rw [waits, List.append_assoc] at ih
    simpa [applied, applies] using ih.cons batch

theorem performances_eq (h : Trace first entries last) :
    entries.performances = entries.applications.flatMap Application.performances := by
  induction h with
  | refl => rfl
  | @direct batch queue stage body entries outcomes between last block after ih =>
    have applies := block.applications_append false entries
    simp [applies, block.performed, ih, Application.performances]
  | @queued batch queue stage body entries outcomes between last block after ih =>
    have applies := block.applications_append true entries
    simp [applies, block.performed, ih, Application.performances]

theorem replays (h : Trace first entries last) {stage : Stage}
    (start : stage.silent = first.stage.silent) :
    ∃ stage', outcome (Batch.processAll entries.applied) stage =
        (.ok (entries.applications.map Application.outcomes), stage') ∧
      stage'.silent = last.stage.silent := by
  -- on the trace, for every stage alike: the first bundle leaves another stage for the others
  induction h generalizing stage with
  | refl rest => exact ⟨stage, rfl, start⟩
  | @direct batch queue left body entries outcomes between last block after ih =>
    have applies := block.applications_append false entries
    obtain ⟨stage₁, ends, left⟩ := block.replays start
    obtain ⟨stage₂, ends', left'⟩ := ih left
    refine ⟨stage₂, ?_, left'⟩
    simp only [applied, applications_cons, JournalEntry.application?, Option.toList_none,
      List.nil_append, applies, List.map_cons]
    exact Batch.processAll_cons ends ends'
  | @queued batch queue left body entries outcomes between last block after ih =>
    have applies := block.applications_append true entries
    obtain ⟨stage₁, ends, left⟩ := block.replays start
    obtain ⟨stage₂, ends', left'⟩ := ih left
    refine ⟨stage₂, ?_, left'⟩
    rw [applied, applies]
    exact Batch.processAll_cons ends ends'

theorem in_order_iff (h : Trace first entries last)
    (distinct : (first.queue ++ entries.submissions).Nodup) :
    entries.applied ++ last.queue = first.queue ++ entries.submissions ↔ entries.Orderly := by
  induction h with
  | refl rest => simp [applied, Orderly]
  | @direct batch queue stage body entries outcomes between last block after ih =>
    have applies := block.applications_append false entries
    have orderly : body.Orderly := block.quiet.orderly
    have waits : between.queue = queue ++ body.submissions := block.waits
    cases queue with
    | nil =>
      simp only [List.nil_append] at waits
      have distinct' : (between.queue ++ entries.submissions).Nodup := by
        simp at distinct
        simpa [waits] using distinct.2
      simpa [applied, applies, orderly, waits] using ih distinct'
    | cons waiting queue =>
      -- the bundle that waits is another one, and it was submitted before
      have other : batch ≠ waiting := by
        simp at distinct
        rintro rfl
        simp at distinct
      simp [applied, applies, other]
  | @queued batch queue stage body entries outcomes between last block after ih =>
    have applies := block.applications_append true entries
    have orderly : body.Orderly := block.quiet.orderly
    have waits : between.queue = queue ++ body.submissions := block.waits
    have distinct' : (between.queue ++ entries.submissions).Nodup := by
      simp at distinct
      simpa [waits] using distinct.2
    simpa [applied, applies, orderly, waits] using ih distinct'

end Trace

end InteractiveFiction
