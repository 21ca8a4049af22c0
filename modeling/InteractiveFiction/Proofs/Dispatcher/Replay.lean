import InteractiveFiction.Proofs.Dispatcher.Submission
import InteractiveFiction.Proofs.Effect.Moments

/-!
What becomes of the stage of a dispatcher, failures included.

* `Journal.handled`: the bundles that were applied or failed, in that order.
* `Dispatcher.Replaying`: what was done between two bundles is what the bundles handled meanwhile
  do one after another, each alone.
* `submit_replays`: so is every submission, whatever is submitted inside it and whatever fails.
-/

set_option autoImplicit false

namespace InteractiveFiction

open Course

/-! ## Bundles that were handled -/

/-- A bundle that was done with: all its parts were done, or one failed. -/
def JournalEntry.handled? : JournalEntry → Option Batch
  | .applied batch _ _ | .failed batch _ _ => some batch
  | _ => none

def Journal.handled (journal : Journal) : List Batch :=
  journal.filterMap JournalEntry.handled?

namespace Journal

theorem handled_append (journal journal' : Journal) :
    handled (journal ++ journal') = journal.handled ++ journal'.handled :=
  List.filterMap_append

theorem Quiet.handled {journal : Journal} (h : journal.Quiet) : journal.handled = [] := by
  rw [Journal.handled, List.filterMap_eq_nil_iff]
  intro entry mem
  have quiet := h entry mem
  cases entry <;> simp_all [JournalEntry.handled?]

end Journal

/-! ## Stages alike but for what was published -/

theorem Batch.silent_play {batches : List Batch} {stage stage' : Stage}
    (same : stage.silent = stage'.silent) :
    (play batches stage).silent = (play batches stage').silent := by
  induction batches generalizing stage stage' with
  | nil => exact same
  | cons batch batches ih => exact ih (batch.effect.process_silently stage stage' same).2

namespace Dispatcher

structure Replays (first : Dispatcher) (entries : Journal) (last : Dispatcher) : Prop where
  idle : last.applying = false
  journal : last.journal = first.journal ++ entries
  stage : last.stage.silent = (Batch.play entries.handled first.stage.silent).silent

/-- Between two bundles: those handled meanwhile were handled one after another. -/
def Replaying (first last : Dispatcher) : Prop :=
  first.applying = false → ∃ entries, Replays first entries last

namespace Replaying

instance : Std.Refl Replaying :=
  ⟨fun _ idle => ⟨[], idle, (List.append_nil _).symm, rfl⟩⟩

theorem trans {first between last : Dispatcher} (h : Replaying first between)
    (h' : Replaying between last) : Replaying first last := by
  intro idle
  obtain ⟨entries, replays⟩ := h idle
  obtain ⟨entries', replays'⟩ := h' replays.idle
  refine ⟨entries ++ entries', replays'.idle, ?_, ?_⟩
  · rw [replays'.journal, replays.journal, List.append_assoc]
  · rw [replays'.stage, Journal.handled_append, Batch.play_append]
    exact Batch.silent_play replays.stage

instance : Trans Replaying Replaying Replaying :=
  ⟨trans⟩

/-- What changes neither the journal nor the stage, but for what is published. -/
theorem of_same {first last : Dispatcher} (applying : last.applying = first.applying)
    (journal : last.journal = first.journal) (stage : last.stage.silent = first.stage.silent) :
    Replaying first last := by
  intro idle
  refine ⟨[], applying.trans idle, by rw [journal, List.append_nil], ?_⟩
  rw [stage]
  rfl

end Replaying

/-! ## Triggers -/

section Hearing

variable {submit : Submission → Dispatching (List Outcome)}
  (replays : ∀ submission, Leads Replaying (submit submission))

include replays

theorem fire_replays (record : EventRecord) (place : Nat) :
    Leads Replaying (fire submit record place) := by
  intro first
  cases draws : first.draw? place record with
  | none =>
    rw [after, fire_of_none submit draws]
    exact Std.Refl.refl first
  | some draw =>
    obtain ⟨submission, drawn⟩ := draw
    obtain ⟨⟨triggers, rfl⟩, -⟩ := draw?_eq_some draws
    obtain ⟨firings, firings', ends⟩ := fire_of_some submit draws
    have fired := replays submission { first with triggers, firings }
    rw [after, ends]
    intro idle
    obtain ⟨entries, done⟩ := fired idle
    exact ⟨entries, done.idle, done.journal, done.stage⟩

theorem hear_replays (record : EventRecord) : Leads Replaying (hear submit record) := by
  refine .bind .get fun dispatcher => .bind (.forIn _ _ fun place _ _ => ?_) fun _ => ?_
  · exact .bind (fire_replays replays record place) fun _ => .pure _
  · exact .modify fun _ => .of_same rfl rfl rfl

theorem hearAll_replays (records : List EventRecord) : Leads Replaying (hearAll submit records) := by
  refine .bind (.forIn _ _ fun record _ _ => ?_) fun _ => .pure ()
  exact .bind (hear_replays replays record) fun _ => .pure _

/-- Closing a bundle touches the state; what is submitted when that is heard of comes after it. -/
theorem announce_replays (outcomes : List Outcome) (queued : Bool) (first : Dispatcher) :
    Replaying first.touched (after (announce submit (Effect.finish outcomes queued)) first) := by
  let record : EventRecord :=
    ⟨.effectsProcessed (outcomes.map Outcome.toDocument) queued, first.stage.now⟩
  have acts : outcome (act (Effect.finish outcomes queued)) first =
      (.ok (.ok (), [record]), first.touched) := rfl
  rw [announce, after, outcome_bind_of_ok acts]
  exact (hearAll_replays replays [record]).bind
    (fun _ => .of_after fun d => by rw [after, outcome_ofResult]) first.touched

end Hearing

/-! ## Bundles -/

section Bundles

variable {submit : Submission → Dispatching (List Outcome)} {batch : Batch} {queued : Bool}
  (grows : ∀ submission first, Evolving 1 first (after (submit submission) first))

include grows

theorem applied_alone {first last : Dispatcher} {outcomes : List Outcome}
    (ends : outcome (applyParts submit batch queued) first = (.ok outcomes, last)) :
    ∃ entries, Replays first entries last.touched := by
  obtain ⟨body, worked⟩ := worked_of_ok grows ends
  obtain ⟨stage, alone, left⟩ := worked.block.alone
  have handled : Journal.handled (body ++ [.applied batch queued outcomes]) = [batch] := by
    rw [Journal.handled_append, worked.quiet.handled]
    rfl
  have does : after batch.effect.process first.stage.silent = stage := by
    rw [after]
    exact congrArg Prod.snd alone
  refine ⟨_, { idle := worked.idle, journal := worked.journal, stage := ?_ }⟩
  rw [handled, Batch.play, List.foldl_cons, List.foldl_nil, does, left]
  rfl

/-- A bundle that failed leaves the stage as it would leave it alone. -/
theorem failed_alone {first last : Dispatcher} {fault : Fault}
    (ends : outcome (applyParts submit batch queued) first = (.error fault, last)) :
    ∃ entries, Replays first entries last := by
  rcases parts : outcome (batch.effect.parts.mapM (performPart submit batch))
    { first with applying := true } with ⟨r, worked⟩
  rw [outcome_applyParts queued parts] at ends
  cases ends
  obtain ⟨body, given, stretch, -⟩ :=
    performAll_stretches grows batch.effect.parts_heedless rfl parts
  have beside : Beside { first with applying := true } first.stage.silent := ⟨rfl, rfl⟩
  obtain ⟨stage, alone, -, left⟩ := (performAll_tracks grows batch.effect).of_outcome beside parts
  have handled : Journal.handled (body ++ [.failed batch queued worked.queue.length]) = [batch] := by
    rw [Journal.handled_append, stretch.quiet.handled]
    rfl
  have does : after batch.effect.process first.stage.silent = stage := by
    rw [Effect.process, after, outcome_bind_of_error alone]
  refine ⟨_, { idle := rfl, journal := (stretch.extends_noting rfl).journal, stage := ?_ }⟩
  rw [handled, Batch.play, List.foldl_cons, List.foldl_nil, does]
  exact left

theorem run_replays (replays : ∀ submission, Leads Replaying (submit submission)) :
    Leads Replaying (run submit batch queued) := by
  intro first idle
  rw [run, after]
  rcases applied : outcome (applyParts submit batch queued) first with ⟨r, middle⟩
  cases r with
  | error fault =>
    rw [outcome_bind_of_error applied]
    exact failed_alone grows applied
  | ok outcomes =>
    rw [outcome_bind_of_ok applied]
    have closes := announce_replays replays outcomes queued middle
    obtain ⟨entries, done⟩ := applied_alone grows applied
    have here : Replaying first middle.touched := fun _ => ⟨entries, done⟩
    have same : (outcome (announce submit (Effect.finish outcomes queued) >>= fun _ =>
        pure outcomes) middle).2 =
        after (announce submit (Effect.finish outcomes queued)) middle := by
      rw [outcome_bind, after]
      rcases outcome (announce submit (Effect.finish outcomes queued)) middle with ⟨r, last⟩
      cases r <;> rfl
    rw [same]
    exact here.trans closes idle

end Bundles

/-! ## Submissions -/

section Submitting

variable {submit : Submission → Dispatching (List Outcome)}
  (grows : ∀ submission first, Evolving 1 first (after (submit submission) first))
  (replays : ∀ submission, Leads Replaying (submit submission))

include grows replays

theorem drain_replays (fuel : Nat) : Leads Replaying (drain submit fuel) := by
  induction fuel with
  | zero => exact .pure ()
  | succ fuel ih =>
    refine .bind .get fun dispatcher => ?_
    split
    · exact .pure ()
    · refine .bind (.modify fun _ => .of_same rfl rfl rfl) fun _ => ?_
      exact .bind (run_replays grows replays) fun _ => ih

theorem process_replays (batch : Batch) : Leads Replaying (process submit batch) := by
  refine .bind (.tryCatch (run_replays grows replays) fun fault => ?_) fun outcomes => ?_
  · exact .bind (.modify fun _ => .of_same rfl rfl rfl) fun _ => .throw fault
  · exact .bind .get fun dispatcher => .bind (drain_replays grows replays _) fun _ => .pure outcomes

theorem receive_replays (submission : Submission) : Leads Replaying (receive submit submission) := by
  have issues : Leads Replaying (issuing submission.read) := by
    intro first
    obtain ⟨r, issued, reads⟩ := outcome_issuing submission.read first
    rw [after, reads]
    exact .of_same rfl rfl rfl
  have registers (effect : Effect) : Leads Replaying (register effect) := by
    intro first idle
    exact ⟨[first.arrival effect], idle, rfl, rfl⟩
  refine .bind issues fun found => ?_
  split
  · exact .pure []
  · refine .bind (registers _) fun batch => .bind .get fun dispatcher => .branch ?_ ?_
    · exact .bind (.modify fun _ => .of_same rfl rfl rfl) fun _ => .pure []
    · exact process_replays grows replays batch

end Submitting

theorem submitWithin_replays (depth : Nat) (submission : Submission) :
    Leads Replaying (submitWithin depth submission) := by
  induction depth generalizing submission with
  | zero => exact .pure []
  | succ depth ih => exact receive_replays (submitWithin_evolves depth) ih submission

theorem submit_replays (submission : Submission) : Leads Replaying (submit submission) :=
  .bind .get fun first => submitWithin_replays (first.pending + 1) submission

end Dispatcher

end InteractiveFiction
