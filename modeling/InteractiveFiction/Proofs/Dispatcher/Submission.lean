import InteractiveFiction.Proofs.Dispatcher.Batch

/-!
What a dispatcher does with a submission.

* `drain_evolves`: what waits is applied, the first one first; with fuel for the whole load nothing
  waits afterwards, unless a bundle fails.
* `process_evolves`: a bundle is applied and then what waits, or the bundle fails and what waits is
  dropped.
* `receive_evolves`: a submission is applied, or it waits while a bundle is being applied.
* `submit_evolves`: however deep submissions are made one inside another.
* `submit_eq`: what is submitted inside a submission is submitted like any other.
-/

set_option autoImplicit false

namespace InteractiveFiction

open Course

namespace Dispatcher

/-- Nothing waits any more, but for what a bundle that had waited and failed left behind. -/
def Settled {α : Type} (r : Except Fault α) (entries : Journal) (last : Dispatcher) : Prop :=
  last.queue = [] ∨ ∃ fault batch, r = .error fault ∧
    entries.getLast? = some (.failed batch true last.queue.length)

theorem Settled.append {α : Type} {r : Except Fault α} {entries : Journal} {last : Dispatcher}
    (h : Settled r entries last) (earlier : Journal) : Settled r (earlier ++ entries) last := by
  obtain none | ⟨fault, batch, failed, ends⟩ := h
  · exact .inl none
  · exact .inr ⟨fault, batch, failed, by simp [List.getLast?_append, ends]⟩

theorem Settled.map {α β : Type} {r : Except Fault α} {entries : Journal} {last : Dispatcher}
    (h : Settled r entries last) (f : α → β) : Settled (r.map f) entries last := by
  obtain none | ⟨fault, batch, rfl, ends⟩ := h
  · exact .inl none
  · exact .inr ⟨fault, batch, rfl, ends⟩

namespace Ran

variable {batch : Batch} {queued : Bool} {first between last : Dispatcher}
  {body entries entries' : Journal} {outcomes : List Outcome}

theorem trans (h : Ran batch queued first body outcomes entries between)
    (h' : Evolves 0 between entries' last) :
    Ran batch queued first body outcomes (entries ++ entries') last := by
  have whole := h.toExtends.trans h'.toExtends
  have closes := h.closes.trans h'.closes
  have stuck := h.stuck.append h'.stuck h'.still
  rw [List.append_assoc, List.cons_append] at whole closes stuck
  refine { toExtends := whole, closes := closes, idle := ?_, stuck := stuck, works := ?_ }
  · rw [h'.applying, h.idle]
  · intro clean
    obtain ⟨clean, clean'⟩ := (Journal.clean_append entries entries').1 clean
    obtain ⟨done, block, trace⟩ := h.works clean
    exact ⟨done, block, trace.trans (h'.works h.idle clean')⟩

end Ran

/-! ## What waits -/

section Waiting

variable {batch : Batch} {queue : List Batch} {first last : Dispatcher} {body entries : Journal}
  {outcomes : List Outcome}

theorem load_pop (waiting : first.queue = batch :: queue) :
    load { first with queue } + 1 = first.load := by
  simp only [load, pending, waiting, List.length_cons]
  omega

theorem Extends.of_pop (waiting : first.queue = batch :: queue)
    (h : Extends 0 { first with queue } entries last) : Extends 0 first entries last := by
  have fewer := load_pop waiting
  have load := h.load
  exact { h with load := by omega }

theorem Ran.evolves (waiting : first.queue = batch :: queue) (idle : first.applying = false)
    (h : Ran batch true { first with queue } body outcomes entries last) :
    Evolves 0 first (body ++ .applied batch true outcomes :: entries) last where
  toExtends := h.toExtends.of_pop waiting
  closes := h.closes
  applying := h.idle.trans idle.symm
  still := by simp
  stuck := h.stuck
  waits := by simp [idle]
  works := by
    intro _ clean
    rw [Journal.clean_append, Journal.clean_cons] at clean
    obtain ⟨done, block, trace⟩ := h.works clean.2.2
    have start : first.rest = ⟨batch :: queue, first.stage.silent⟩ := by rw [rest, waiting]
    rw [start]
    exact .queued block trace

theorem Failed.evolves (waiting : first.queue = batch :: queue) (idle : first.applying = false)
    (h : Failed batch true { first with queue } body last) :
    Evolves 0 first (body ++ [.failed batch true last.queue.length]) last where
  toExtends := h.toExtends.of_pop waiting
  closes := h.closes
  applying := h.idle.trans idle.symm
  still := by simp
  stuck := by
    intro batch' waiting' ends
    simp only [List.getLast?_append, List.getLast?_singleton, Option.some_or, Option.some.injEq,
      JournalEntry.failed.injEq] at ends
    exact ends.2.2
  waits := by simp [idle]
  works := by simp

end Waiting

/-! ## What is submitted -/

def fresh (dispatcher : Dispatcher) (effect : Effect) : Batch :=
  ⟨dispatcher.journal.submissions.length, effect⟩

def arrival (dispatcher : Dispatcher) (effect : Effect) : JournalEntry :=
  .submitted (dispatcher.fresh effect) dispatcher.queue.length dispatcher.applying

/-- A dispatcher that has noted a submission, and issued so many identities by then. -/
def registered (dispatcher : Dispatcher) (effect : Effect) (issued : Nat) : Dispatcher :=
  { dispatcher with issued, journal := dispatcher.journal ++ [dispatcher.arrival effect] }

section Submitted

variable {effect : Effect} {issued : Nat} {first last : Dispatcher} {body entries : Journal}
  {outcomes : List Outcome}

theorem outcome_register (effect : Effect) (issued : Nat) (first : Dispatcher) :
    outcome (register effect) { first with issued } =
      (.ok (first.fresh effect), first.registered effect issued) :=
  rfl

theorem extends_registered (first : Dispatcher) (effect : Effect) (issued : Nat) :
    Extends 0 first [first.arrival effect] (first.registered effect issued) :=
  { Extends.refl first with journal := rfl, numbered := rfl }

theorem closes_registered (first : Dispatcher) (effect : Effect) (issued : Nat) :
    Closes first [first.arrival effect] (first.registered effect issued) :=
  .of_silence rfl rfl

theorem stuck_registered (first : Dispatcher) (effect : Effect) (issued : Nat) :
    Stuck [first.arrival effect] (first.registered effect issued) := by
  simp [Stuck, arrival]

theorem Ran.evolves_registered (idle : first.applying = false)
    (h : Ran (first.fresh effect) false (first.registered effect issued) body outcomes entries last) :
    Evolves 0 first
      (first.arrival effect :: (body ++ .applied (first.fresh effect) false outcomes :: entries))
      last where
  toExtends := (extends_registered first effect issued).trans h.toExtends
  closes := (closes_registered first effect issued).trans h.closes
  applying := h.idle.trans idle.symm
  still := by simp
  stuck := (stuck_registered first effect issued).append h.stuck (by simp)
  waits := by simp [idle]
  works := by
    intro _ clean
    rw [Journal.clean_cons, Journal.clean_append, Journal.clean_cons] at clean
    obtain ⟨done, block, trace⟩ := h.works clean.2.2.2
    rw [arrival, idle]
    exact .direct block trace

/-- When the bundle that did not wait fails, what waits is dropped. -/
theorem Failed.evolves_registered (idle : first.applying = false)
    (h : Failed (first.fresh effect) false (first.registered effect issued) body last) :
    Evolves 0 first
      (first.arrival effect :: (body ++ [.failed (first.fresh effect) false last.queue.length]))
      { last with queue := [] } where
  toExtends := by
    have whole := (extends_registered first effect issued).trans h.toExtends
    have less : load { last with queue := [] } ≤ last.load := by
      simp only [load, List.length_nil, pending]
      omega
    exact { whole with load := Nat.le_trans less whole.load }
  closes := (closes_registered first effect issued).trans h.closes
  applying := h.idle.trans idle.symm
  still := by simp
  stuck := by
    have stuck : Stuck (body ++ [.failed (first.fresh effect) false last.queue.length])
        { last with queue := [] } := by simp [Stuck]
    exact (stuck_registered first effect issued).append stuck (by simp)
  waits := by simp [idle]
  works := by simp

theorem evolves_enqueued (busy : first.applying = true) :
    Evolves 1 first [first.arrival effect]
      { first.registered effect issued with queue := first.queue ++ [first.fresh effect] } where
  toExtends := by
    have noted := extends_registered first effect issued
    refine { noted with load := ?_ }
    simp only [load, pending, registered, List.length_append, List.length_singleton]
    omega
  closes := closes_registered first effect issued
  applying := rfl
  still := by simp
  stuck := by simp [Stuck, arrival]
  waits := fun _ => {
    quiet := by simp [Journal.Quiet, arrival, busy]
    performances := rfl
    queue := rfl
    stage := rfl }
  works := by simp [busy]

end Submitted

section Submitting

variable {submit : Submission → Dispatching (List Outcome)}
  (h : ∀ submission first, Evolving 1 first (after (submit submission) first))

include h

theorem drain_evolves (fuel : Nat) {first last : Dispatcher} {r : Except Fault Unit}
    (idle : first.applying = false) (ends : outcome (drain submit fuel) first = (r, last)) :
    ∃ entries, Evolves 0 first entries last ∧
      (first.load ≤ fuel → Settled r entries last) := by
  induction fuel generalizing first r with
  | zero =>
    cases ends
    refine ⟨[], .refl last, fun enough => .inl ?_⟩
    rw [load] at enough
    exact List.length_eq_zero_iff.1 (by omega)
  | succ fuel ih =>
    rw [drain, outcome_bind_of_ok (outcome_get first)] at ends
    cases waiting : first.queue with
    | nil =>
      rw [waiting] at ends
      cases ends
      exact ⟨[], .refl last, fun _ => .inl waiting⟩
    | cons batch queue =>
      rw [waiting] at ends
      have popped (next : Unit → Dispatching Unit) :
          outcome ((modify fun d => { d with queue }) >>= next) first =
            outcome (next ()) { first with queue } := rfl
      rw [popped] at ends
      have fewer := load_pop waiting
      rcases runs : outcome (run submit batch true) { first with queue } with ⟨r', between⟩
      cases r' with
      | ok outcomes =>
        rw [outcome_bind_of_ok runs] at ends
        obtain ⟨body, entries, ran⟩ := run_of_ok h runs
        obtain ⟨entries', evolves, settles⟩ := ih ran.idle ends
        have load := ran.load
        refine ⟨_, (ran.trans evolves).evolves waiting idle, fun enough => ?_⟩
        have settled := (settles (by omega)).append (body ++ .applied batch true outcomes :: entries)
        rwa [List.append_assoc, List.cons_append] at settled
      | error fault =>
        rw [outcome_bind_of_error runs] at ends
        cases ends
        obtain ⟨body, failed⟩ := run_of_error h runs
        exact ⟨_, failed.evolves waiting idle, fun _ => .inr ⟨fault, batch, rfl, by simp⟩⟩

/-! ## Submissions -/

theorem process_evolves {effect : Effect} {issued : Nat} {first last : Dispatcher}
    {r : Except Fault (List Outcome)} (idle : first.applying = false)
    (ends : outcome (process submit (first.fresh effect)) (first.registered effect issued) =
      (r, last)) :
    ∃ entries, Evolves 0 first (first.arrival effect :: entries) last ∧
      Settled r (first.arrival effect :: entries) last := by
  rcases runs : outcome (run submit (first.fresh effect) false) (first.registered effect issued)
    with ⟨r', between⟩
  cases r' with
  | error fault =>
    have drops : outcome (process submit (first.fresh effect)) (first.registered effect issued) =
        (.error fault, { between with queue := [] }) := by
      rw [process, outcome_bind, outcome_tryCatch, runs]
      rfl
    rw [drops] at ends
    cases ends
    obtain ⟨body, failed⟩ := run_of_error h runs
    exact ⟨_, failed.evolves_registered idle, .inl rfl⟩
  | ok outcomes =>
    obtain ⟨body, entries, ran⟩ := run_of_ok h runs
    have tried : outcome (tryCatch (run submit (first.fresh effect) false) fun fault => do
        modify fun d => { d with queue := [] }
        throw fault) (first.registered effect issued) = (.ok outcomes, between) := by
      rw [outcome_tryCatch, runs]
    rw [process, outcome_bind_of_ok tried, outcome_bind_of_ok (outcome_get between)] at ends
    rcases drains : outcome (drain submit between.load) between with ⟨r', last'⟩
    obtain ⟨entries', evolves, settles⟩ := drain_evolves h between.load ran.idle drains
    have whole := (ran.trans evolves).evolves_registered idle
    have ends' : r = r'.map (fun _ => outcomes) ∧ last = last' := by
      cases r' with
      | ok _ =>
        rw [outcome_bind_of_ok drains] at ends
        cases ends
        exact ⟨rfl, rfl⟩
      | error fault =>
        rw [outcome_bind_of_error drains] at ends
        cases ends
        exact ⟨rfl, rfl⟩
    obtain ⟨rfl, rfl⟩ := ends'
    have settled := ((settles (Nat.le_refl _)).map fun _ => outcomes).append
      (first.arrival effect :: (body ++ .applied (first.fresh effect) false outcomes :: entries))
    refine ⟨_, whole, ?_⟩
    simpa using settled

omit h in
theorem outcome_issuing {α : Type} (issue : Issue α) (first : Dispatcher) :
    ∃ r issued, outcome (issuing issue) first = (r, { first with issued }) := by
  refine ⟨((issue.run).run first.issued).1, ((issue.run).run first.issued).2, ?_⟩
  unfold issuing
  rw [outcome_bind_of_ok (outcome_get first)]
  rcases (issue.run).run first.issued with ⟨r, issued⟩
  cases r <;> rfl

omit h in
theorem evolves_issued (first : Dispatcher) (issued : Nat) :
    Evolves 1 first [] { first with issued } :=
  { Evolves.refl first with load := Nat.le_succ _ }

theorem receive_evolves (submission : Submission) {first last : Dispatcher}
    {r : Except Fault (List Outcome)}
    (ends : outcome (receive submit submission) first = (r, last)) :
    ∃ entries, Evolves 1 first entries last ∧
      (first.applying = false → entries = [] ∨ Settled r entries last) := by
  obtain ⟨read, issued, reads⟩ := outcome_issuing submission.read first
  cases read with
  | error fault =>
    rw [receive, outcome_bind_of_error reads] at ends
    cases ends
    exact ⟨[], evolves_issued first issued, fun _ => .inl rfl⟩
  | ok found =>
    rw [receive, outcome_bind_of_ok reads] at ends
    cases found with
    | none =>
      cases ends
      exact ⟨[], evolves_issued first issued, fun _ => .inl rfl⟩
    | some effect =>
      dsimp only at ends
      rw [outcome_bind_of_ok (outcome_register effect issued first),
        outcome_bind_of_ok (outcome_get _)] at ends
      cases applying : first.applying with
      | true =>
        have busy : (first.registered effect issued).applying = true := applying
        rw [if_pos busy] at ends
        cases ends
        exact ⟨_, evolves_enqueued applying, by simp⟩
      | false =>
        have idle : ¬ (first.registered effect issued).applying = true := by
          simp [registered, applying]
        rw [if_neg idle] at ends
        obtain ⟨entries, evolves, settled⟩ := process_evolves h applying ends
        exact ⟨_, evolves.weaken (Nat.zero_le 1), fun _ => .inr settled⟩

end Submitting

/-! ## Submissions one inside another -/

theorem submitWithin_evolves (depth : Nat) (submission : Submission) (first : Dispatcher) :
    Evolving 1 first (after (submitWithin depth submission) first) := by
  induction depth generalizing submission first with
  | zero => exact ⟨[], (Evolves.refl first).weaken (Nat.zero_le 1)⟩
  | succ depth ih =>
    obtain ⟨entries, evolves, -⟩ := receive_evolves ih submission (outcome_eq _ first)
    exact ⟨entries, evolves⟩

theorem outcome_submit (submission : Submission) (first : Dispatcher) :
    outcome (submit submission) first =
      outcome (submitWithin (first.pending + 1) submission) first :=
  outcome_bind_of_ok (outcome_get first) _

theorem submit_evolves (submission : Submission) (first : Dispatcher) :
    ∃ entries, Evolves 1 first entries (after (submit submission) first) ∧
      (first.applying = false → entries = [] ∨
        Settled (result (submit submission) first) entries (after (submit submission) first)) := by
  have ends : outcome (receive (submitWithin first.pending) submission) first =
      (result (submit submission) first, after (submit submission) first) := by
    rw [← outcome_eq, outcome_submit, submitWithin]
  exact receive_evolves (submitWithin_evolves first.pending) submission ends

end Dispatcher

/-! ## The bound on the depth

It does not show: a trigger that submits has one submission less to make, so submissions lie one
inside another at most as deep as triggers have submissions to make (`submitWithin_eq`). -/

namespace Dispatcher

/-- The same dispatcher on both sides, whose triggers have so many submissions to make at most. -/
def Within (n : Nat) (d e : Dispatcher) : Prop :=
  d = e ∧ d.pending ≤ n

theorem within_weaken {m n : Nat} (le : m ≤ n) (d e : Dispatcher) (h : Within m d e) :
    Within n d e :=
  ⟨h.1, Nat.le_trans h.2 le⟩

/-- What leaves the triggers with no more submissions to make than before. -/
theorem within_self {α : Type} {n : Nat} {c : Dispatching α}
    (h : ∀ d, (after c d).pending ≤ d.pending) : Tracks (Within n) c c := by
  rintro d _ ⟨rfl, le⟩
  exact ⟨rfl, rfl, Nat.le_trans (h d) le⟩

theorem within_modify {n : Nat} {f : Dispatcher → Dispatcher}
    (h : ∀ d, (f d).pending = d.pending) :
    Tracks (Within n) (modify f : Dispatching Unit) (modify f) :=
  within_self fun d => Nat.le_of_eq (h d)

section Depth

variable {submit submit' : Submission → Dispatching (List Outcome)} {n : Nat}
  (h : ∀ m < n, ∀ submission, Tracks (Within m) (submit submission) (submit' submission))

include h

theorem fire_within (record : EventRecord) (place : Nat) :
    Tracks (Within n) (fire submit record place) (fire submit' record place) := by
  refine .get ?_
  rintro d _ ⟨rfl, le⟩
  cases draws : d.draw? place record with
  | none => exact .pure ()
  | some draw =>
    obtain ⟨submission, drawn⟩ := draw
    obtain ⟨-, fewer⟩ := draw?_eq_some draws
    have less : drawn.pending < n := by omega
    -- what is submitted has fewer submissions to come, whoever the trigger is
    have start : ∀ firings, Within drawn.pending { drawn with firings } { drawn with firings } :=
      fun _ => ⟨rfl, Nat.le_refl _⟩
    refine .set (start _) (within_weaken (Nat.le_of_lt less)) ?_
    refine .tryCatch (.bind (h _ less submission) fun outcomes => ?_) fun _ => .pure ()
    exact within_modify fun _ => rfl

theorem hear_within (record : EventRecord) :
    Tracks (Within n) (hear submit record) (hear submit' record) := by
  refine .get ?_
  rintro d _ ⟨rfl, -⟩
  refine .bind (.forIn _ _ fun place _ _ => ?_) fun _ => within_modify fun _ => rfl
  exact .bind (fire_within h record place) fun _ => .pure _

theorem hearAll_within (records : List EventRecord) :
    Tracks (Within n) (hearAll submit records) (hearAll submit' records) := by
  refine .bind (.forIn records _ fun record _ _ => ?_) fun _ => .pure ()
  exact .bind (hear_within h record) fun _ => .pure _

omit h in
theorem ofResult_within {α : Type} (r : Result α) :
    Tracks (Within n) (ofResult r) (ofResult r) := by
  cases r with
  | ok a => exact .pure a
  | error fault => exact .throw fault

theorem announce_within {α : Type} (action : Action α) :
    Tracks (Within n) (announce submit action) (announce submit' action) := by
  refine .bind (within_self fun d => Nat.le_refl d.pending) fun acted => ?_
  exact .bind (hearAll_within h acted.2) fun _ => ofResult_within acted.1

theorem performPart_within (batch : Batch) (part : Action Outcome) :
    Tracks (Within n) (performPart submit batch part) (performPart submit' batch part) := by
  refine .bind (within_self fun d => Nat.le_refl d.pending) fun acted => ?_
  refine .bind (within_modify fun _ => rfl) fun _ => ?_
  exact .bind (hearAll_within h acted.2) fun _ => ofResult_within acted.1

theorem applyParts_within (batch : Batch) (queued : Bool) :
    Tracks (Within n) (applyParts submit batch queued) (applyParts submit' batch queued) := by
  have parts : Tracks (Within n) (batch.effect.parts.mapM (performPart submit batch))
      (batch.effect.parts.mapM (performPart submit' batch)) :=
    .mapM _ fun part _ => performPart_within h batch part
  refine .bind (within_modify fun _ => rfl) fun _ => .tryCatch (.bind parts fun outcomes => ?_) ?_
  · exact .bind (within_modify fun _ => rfl) fun _ => .pure outcomes
  · exact fun fault => .bind (within_modify fun _ => rfl) fun _ => .throw fault

theorem run_within (batch : Batch) (queued : Bool) :
    Tracks (Within n) (run submit batch queued) (run submit' batch queued) := by
  refine .bind (applyParts_within h batch queued) fun outcomes => ?_
  exact .bind (announce_within h _) fun _ => .pure outcomes

theorem drain_within (fuel : Nat) :
    Tracks (Within n) (drain submit fuel) (drain submit' fuel) := by
  induction fuel with
  | zero => exact .pure ()
  | succ fuel ih =>
    refine .get ?_
    rintro d _ ⟨rfl, -⟩
    cases d.queue with
    | nil => exact .pure ()
    | cons batch queue =>
      refine .bind (within_modify fun _ => rfl) fun _ => ?_
      exact .bind (run_within h batch true) fun _ => ih

theorem process_within (batch : Batch) :
    Tracks (Within n) (process submit batch) (process submit' batch) := by
  refine .bind (.tryCatch (run_within h batch false) fun fault => ?_) fun outcomes => .get ?_
  · exact .bind (within_modify fun _ => rfl) fun _ => .throw fault
  · rintro d _ ⟨rfl, -⟩
    exact .bind (drain_within h d.load) fun _ => .pure outcomes

theorem receive_within (submission : Submission) :
    Tracks (Within n) (receive submit submission) (receive submit' submission) := by
  have issues : ∀ issue : Issue (Option Effect), Tracks (Within n) (issuing issue) (issuing issue) := by
    refine fun issue => within_self fun d => ?_
    obtain ⟨r, issued, reads⟩ := outcome_issuing issue d
    rw [after, reads]
    exact Nat.le_refl d.pending
  have registers : ∀ effect, Tracks (Within n) (register effect) (register effect) := by
    refine fun effect => within_self fun d => ?_
    rw [after, outcome_register effect d.issued d]
    exact Nat.le_refl d.pending
  unfold receive
  refine .bind (issues submission.read) fun found => ?_
  cases found with
  | none => exact .pure []
  | some effect =>
    refine .bind (registers effect) fun batch => .get ?_
    rintro d _ ⟨rfl, -⟩
    exact .branch (.bind (within_modify fun _ => rfl) fun _ => .pure []) (process_within h batch)

end Depth

/-! ## Any depth that is enough -/

theorem submitWithin_eq {n depth depth' : Nat} (enough : n < depth) (enough' : n < depth')
    (submission : Submission) :
    Tracks (Within n) (submitWithin depth submission) (submitWithin depth' submission) := by
  induction n using Nat.strongRecOn generalizing depth depth' submission with
  | ind n ih =>
    obtain ⟨depth, rfl⟩ := Nat.exists_eq_add_one_of_ne_zero (Nat.ne_zero_of_lt enough)
    obtain ⟨depth', rfl⟩ := Nat.exists_eq_add_one_of_ne_zero (Nat.ne_zero_of_lt enough')
    have inside : ∀ m < n, ∀ submission,
        Tracks (Within m) (submitWithin depth submission) (submitWithin depth' submission) :=
      fun m less => ih m less (by omega) (by omega)
    rw [submitWithin, submitWithin]
    exact receive_within inside submission

/-- A submission is received; those that triggers make meanwhile are submissions again. -/
theorem submit_eq (submission : Submission) (first : Dispatcher) :
    outcome (submit submission) first = outcome (receive submit submission) first := by
  have inside : ∀ m < first.pending, ∀ submission,
      Tracks (Within m) (submitWithin first.pending submission) (submit submission) := by
    rintro m less submission d _ ⟨rfl, le⟩
    have fewer : d.pending < first.pending := Nat.lt_of_le_of_lt le less
    have deep := submitWithin_eq fewer (Nat.lt_succ_self d.pending) submission
    obtain ⟨same, left⟩ := deep d d ⟨rfl, Nat.le_refl _⟩
    rw [result, after, result, after, outcome_submit]
    exact ⟨same, within_weaken le _ _ left⟩
  obtain ⟨same, left, -⟩ := receive_within inside submission first first ⟨rfl, Nat.le_refl _⟩
  rw [outcome_submit, submitWithin]
  exact Prod.ext same left

end Dispatcher

end InteractiveFiction
