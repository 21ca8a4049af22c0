import InteractiveFiction.Effect.Dispatcher
import InteractiveFiction.Proofs.Dispatcher.Trace

/-!
How a dispatcher evolves while its triggers hear of events.

* `Dispatcher.Extends`: the journal grows by numbered submissions, and no submission is invented.
* `Dispatcher.Closes`: each bundle that was applied is closed once.
* `Dispatcher.Evolves`: the dispatcher extends and closes, and keeps to what it was doing.  While a
  bundle is being applied what is submitted waits; else bundles are applied one after another.
* `fire_evolves`, `hear_evolves`, `hearAll_evolves`: hearing of events, whatever is submitted then.
-/

set_option autoImplicit false

namespace InteractiveFiction

open Course

namespace Dispatcher

/-- What matters of a dispatcher to bundles that wait. -/
def rest (dispatcher : Dispatcher) : Rest :=
  ⟨dispatcher.queue, dispatcher.stage.silent⟩

/-! ## Extending -/

/-- The journal grew by some entries; the load grew by so many bundles at most. -/
structure Extends (slack : Nat) (first : Dispatcher) (entries : Journal) (last : Dispatcher) :
    Prop where
  journal : last.journal = first.journal ++ entries
  numbered : entries.submissions.map Batch.serial =
    List.range' first.journal.submissions.length entries.submissions.length
  pending : last.pending ≤ first.pending
  load : last.load ≤ first.load + slack

namespace Extends

variable {slack slack' : Nat} {first between last : Dispatcher} {entries entries' : Journal}

theorem refl (dispatcher : Dispatcher) : Extends 0 dispatcher [] dispatcher where
  journal := (List.append_nil _).symm
  numbered := rfl
  pending := Nat.le_refl _
  load := Nat.le_refl _

theorem trans (h : Extends slack first entries between)
    (h' : Extends slack' between entries' last) :
    Extends (slack + slack') first (entries ++ entries') last := by
  have count : between.journal.submissions.length =
      first.journal.submissions.length + entries.submissions.length := by
    rw [h.journal, Journal.submissions_append, List.length_append]
  have pending := h.pending
  have pending' := h'.pending
  have load := h.load
  have load' := h'.load
  refine ⟨?_, ?_, by omega, by omega⟩
  · rw [h'.journal, h.journal, List.append_assoc]
  · rw [Journal.submissions_append, List.map_append, List.length_append, h.numbered, h'.numbered,
      count, List.range'_append_1]

theorem weaken (h : Extends slack first entries last) (le : slack ≤ slack') :
    Extends slack' first entries last :=
  { h with load := Nat.le_trans h.load (by omega) }

end Extends

/-! ## Closing -/

/-- The events published that close bundles are those of the bundles that were applied. -/
def Closes (first : Dispatcher) (entries : Journal) (last : Dispatcher) : Prop :=
  ∃ added, closings last.stage.published = closings first.stage.published ++ added ∧
    added.Perm entries.announced

namespace Closes

variable {first between last : Dispatcher} {entries entries' : Journal}

theorem of_silence (published : closings last.stage.published = closings first.stage.published)
    (none : entries.announced = []) : Closes first entries last :=
  ⟨[], by rw [published, List.append_nil], by rw [none]⟩

theorem trans (h : Closes first entries between) (h' : Closes between entries' last) :
    Closes first (entries ++ entries') last := by
  obtain ⟨added, published, perm⟩ := h
  obtain ⟨added', published', perm'⟩ := h'
  refine ⟨added ++ added', by rw [published', published, List.append_assoc], ?_⟩
  rw [Journal.announced_append]
  exact perm.append perm'

end Closes

/-! ## Evolving -/

/-- A bundle that had waited and failed left the others waiting. -/
def Stuck (entries : Journal) (last : Dispatcher) : Prop :=
  ∀ batch waiting, entries.getLast? = some (.failed batch true waiting) →
    last.queue.length = waiting

theorem Stuck.append {between last : Dispatcher} {entries entries' : Journal}
    (h : Stuck entries between) (h' : Stuck entries' last)
    (still : entries' = [] → last.queue = between.queue) : Stuck (entries ++ entries') last := by
  intro batch waiting ends
  rw [List.getLast?_append] at ends
  cases later : entries'.getLast? with
  | none =>
    rw [still (List.getLast?_eq_none_iff.1 later)]
    exact h batch waiting (by simpa [later] using ends)
  | some entry =>
    refine h' batch waiting ?_
    simpa [later] using ends

structure Evolves (slack : Nat) (first : Dispatcher) (entries : Journal) (last : Dispatcher) :
    Prop extends Extends slack first entries last where
  closes : Closes first entries last
  applying : last.applying = first.applying
  still : entries = [] → last.queue = first.queue
  stuck : Stuck entries last
  waits : first.applying = true → Waits first.rest entries last.rest
  works : first.applying = false → entries.Clean → Trace first.rest entries last.rest

namespace Evolves

variable {slack slack' : Nat} {first between last : Dispatcher} {entries entries' : Journal}

theorem refl (dispatcher : Dispatcher) : Evolves 0 dispatcher [] dispatcher where
  toExtends := .refl dispatcher
  closes := .of_silence rfl rfl
  applying := rfl
  still := fun _ => rfl
  stuck := by simp [Stuck]
  waits := fun _ => .refl dispatcher.rest
  works := fun _ _ => .refl dispatcher.rest

theorem trans (h : Evolves slack first entries between)
    (h' : Evolves slack' between entries' last) :
    Evolves (slack + slack') first (entries ++ entries') last where
  toExtends := h.toExtends.trans h'.toExtends
  closes := h.closes.trans h'.closes
  applying := h'.applying.trans h.applying
  still := by
    intro none
    obtain ⟨none, none'⟩ := List.append_eq_nil_iff.1 none
    exact (h'.still none').trans (h.still none)
  stuck := h.stuck.append h'.stuck h'.still
  waits := fun busy => (h.waits busy).trans (h'.waits (h.applying.trans busy))
  works := by
    intro idle clean
    obtain ⟨clean, clean'⟩ := (Journal.clean_append entries entries').1 clean
    exact (h.works idle clean).trans (h'.works (h.applying.trans idle) clean')

theorem weaken (h : Evolves slack first entries last) (le : slack ≤ slack') :
    Evolves slack' first entries last :=
  { h with load := (h.toExtends.weaken le).load }

end Evolves

def Evolving (slack : Nat) (first last : Dispatcher) : Prop :=
  ∃ entries, Evolves slack first entries last

namespace Evolving

theorem refl (dispatcher : Dispatcher) : Evolving 0 dispatcher dispatcher :=
  ⟨[], .refl dispatcher⟩

theorem trans (first between last : Dispatcher) (h : Evolving 0 first between)
    (h' : Evolving 0 between last) : Evolving 0 first last := by
  obtain ⟨entries, h⟩ := h
  obtain ⟨entries', h'⟩ := h'
  exact ⟨entries ++ entries', h.trans h'⟩

end Evolving

/-! ## Triggers -/

theorem remaining_set {triggers : List Trigger} {place : Nat} {trigger : Trigger}
    {remaining : Nat} (found : triggers[place]? = some trigger)
    (left : trigger.remaining = remaining + 1) :
    ((triggers.set place { trigger with remaining }).map Trigger.remaining).foldr (· + ·) 0 + 1 =
      (triggers.map Trigger.remaining).foldr (· + ·) 0 := by
  induction triggers generalizing place with
  | nil => simp at found
  | cons first triggers ih =>
    cases place with
    | zero =>
      obtain rfl : first = trigger := by simpa using found
      simp [left]
      omega
    | succ place =>
      have rest := ih (by simpa using found)
      simp only [List.set_cons_succ, List.map_cons, List.foldr_cons]
      omega

/-- A trigger that submits has one submission less to make; all else is as it was. -/
theorem draw?_eq_some {dispatcher drawn : Dispatcher} {place : Nat} {record : EventRecord}
    {submission : Submission} (h : dispatcher.draw? place record = some (submission, drawn)) :
    (∃ triggers, drawn = { dispatcher with triggers }) ∧ drawn.pending + 1 = dispatcher.pending := by
  unfold draw? at h
  split at h
  · rename_i trigger found
    split at h
    · cases h
    · rename_i remaining left
      cases h
      exact ⟨⟨_, rfl⟩, remaining_set found left⟩
  · cases h

/-! ## Hearing -/

section Hearing

variable (submit : Submission → Dispatching (List Outcome))

theorem fire_of_none {first : Dispatcher} {place : Nat} {record : EventRecord}
    (draws : first.draw? place record = none) :
    outcome (fire submit record place) first = (.ok (), first) := by
  rw [fire, outcome_bind_of_ok (outcome_get first), draws]
  rfl

/-- But for the report on how it went, firing is submitting, also when the submission fails. -/
theorem fire_of_some {first drawn : Dispatcher} {place : Nat} {record : EventRecord}
    {submission : Submission} (draws : first.draw? place record = some (submission, drawn)) :
    ∃ firings firings',
      outcome (fire submit record place) first =
        (.ok (), { after (submit submission) { drawn with firings } with firings := firings' }) := by
  let firing : Firing :=
    { event := record.event.name, waiting := drawn.queue.length, applying := drawn.applying }
  let start : Dispatcher := { drawn with firings := drawn.firings ++ [firing] }
  have enters (next : Unit → Dispatching Unit) :
      outcome (set start >>= next) first = outcome (next ()) start := rfl
  refine ⟨start.firings, ?_⟩
  unfold fire after
  rw [outcome_bind_of_ok (outcome_get first), draws]
  dsimp only
  rw [enters, outcome_tryCatch, outcome_bind]
  rcases outcome (submit submission) start with ⟨r, last⟩
  cases r with
  | ok outcomes => exact ⟨_, rfl⟩
  | error fault => exact ⟨last.firings, rfl⟩

variable {submit} (h : ∀ submission first, Evolving 1 first (after (submit submission) first))

include h

theorem fire_evolves (record : EventRecord) (place : Nat) :
    Advances (Evolving 0) (fire submit record place) := by
  intro first
  cases draws : first.draw? place record with
  | none => exact ⟨(), first, fire_of_none submit draws, .refl first⟩
  | some draw =>
    obtain ⟨submission, drawn⟩ := draw
    obtain ⟨⟨triggers, rfl⟩, fewer⟩ := draw?_eq_some draws
    obtain ⟨firings, firings', ends⟩ := fire_of_some submit draws
    obtain ⟨entries, evolves⟩ := h submission { first with triggers, firings }
    generalize after (submit submission) { first with triggers, firings } = last at evolves ends
    -- the submission that was drawn makes room for the bundle it may leave waiting
    have drawn : load { first with triggers, firings } + 1 = first.load := by
      rw [load, load, ← fewer]
      rfl
    have pending : last.pending ≤ first.pending :=
      Nat.le_trans evolves.pending (by rw [← fewer]; exact Nat.le_succ _)
    have load : last.load ≤ first.load := drawn ▸ evolves.load
    exact ⟨(), _, ends, entries, { evolves with pending := pending, load := load }⟩

/-- An event is published after everyone heard of it. -/
theorem hear_ends (record : EventRecord) (first : Dispatcher) :
    ∃ heard, Evolving 0 first heard ∧ outcome (hear submit record) first =
      (.ok (), { heard with
        stage := { heard.stage with published := heard.stage.published ++ [record] } }) := by
  have fires : Advances (Evolving 0) (forIn (first.hearers record.event.name) PUnit.unit
      fun place _ => fire submit record place >>= fun _ => pure (.yield PUnit.unit)) := by
    refine .forIn .refl .trans _ _ fun place _ _ => ?_
    exact .bind .trans (fire_evolves h record place) fun _ => .pure .refl _
  obtain ⟨_, heard, ends, evolves⟩ := fires first
  refine ⟨heard, evolves, ?_⟩
  unfold hear
  rw [outcome_bind_of_ok (outcome_get first), outcome_bind_of_ok ends]
  rfl

theorem hear_evolves {record : EventRecord} (open_ : record.event.isClosing = false) :
    Advances (Evolving 0) (hear submit record) := by
  intro first
  obtain ⟨heard, ⟨entries, evolves⟩, ends⟩ := hear_ends h record first
  refine ⟨(), _, ends, entries, ?_⟩
  obtain ⟨added, published, perm⟩ := evolves.closes
  have none : closings [record] = [] := by simp [closings, open_]
  refine { evolves with closes := ⟨added, ?_, perm⟩ }
  rw [closings_append, none, List.append_nil, published]

theorem hearAll_evolves {records : List EventRecord} (none : closings records = []) :
    Advances (Evolving 0) (hearAll submit records) := by
  refine .bind .trans (.forIn .refl .trans records _ fun record mem _ => ?_) fun _ => .pure .refl ()
  have open_ := not_isClosing_of_closings none mem
  exact .bind .trans (hear_evolves h open_) fun _ => .pure .refl _

end Hearing

end Dispatcher

end InteractiveFiction
