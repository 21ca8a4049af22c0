import InteractiveFiction.Effect.Application
import InteractiveFiction.Effect.Expiry
import InteractiveFiction.Effect.Journal

/-!
Bundles submitted while others are being applied.

* `Submission`: a bundle, or a document that is read as one first.
* `Trigger`: a subscriber that submits when it hears of an event, so many times.
* `Dispatcher`: a stage, the triggers around it, and the bundles that wait.
* `Dispatcher.submit`: applies a bundle, or lets it wait while another one is being applied; what
  waits is applied as soon as the bundle before it is done.

Events of a bundle's parts are heard while it is being applied, so what triggers submit then waits.
The event that closes a bundle is heard after it was applied, and so are expiries: what triggers
submit then is applied at once, inside the event.
-/

set_option autoImplicit false

namespace InteractiveFiction

/-! ## Submissions -/

/-- What is submitted; null stands for nothing. -/
inductive Submission where
  | bundle (effect : Effect)
  | written (document : Document)

instance : Coe Document Submission := ⟨.written⟩

def Submission.read : Submission → Issue (Option Effect)
  | .bundle effect => pure (some effect)
  | .written document =>
    if document = .null then pure none else do pure (some (← Effect.ofDocument document))

/-- What a subscriber submits, by how often it will submit after that and by what it heard. -/
structure Response where
  submission : Nat → EventRecord → Submission

instance : Coe Document Response := ⟨fun document => ⟨fun _ _ => .written document⟩⟩

/-- A subscriber that answers an event with a submission.  One that submits several bundles in a row
stands for several triggers in a row, and one that lets an event pass submits nothing. -/
structure Trigger where
  /-- The name of an event, or the sign for every event. -/
  event : String
  effect : Response
  remaining : Nat := 1

structure Firing where
  event : String
  waiting : Nat
  applying : Bool
  /-- The types of the outcomes; nothing when the submission failed. -/
  types : Option (List String) := none
deriving DecidableEq

structure Dispatcher where
  stage : Stage
  issued : Nat := 0
  triggers : List Trigger := []
  queue : List Batch := []
  applying : Bool := false
  firings : List Firing := []
  journal : Journal := []

abbrev Dispatching := ExceptT Fault (StateM Dispatcher)

namespace Dispatcher

/-! ## Parts of a dispatcher -/

def onStage {α : Type} (action : Action α) : Dispatching α := do
  let dispatcher ← get
  let (result, stage) := (action.run).run dispatcher.stage
  set { dispatcher with stage }
  match result with
  | .ok value => pure value
  | .error fault => throw fault

def issuing {α : Type} (issue : Issue α) : Dispatching α := do
  let dispatcher ← get
  let (result, issued) := (issue.run).run dispatcher.issued
  set { dispatcher with issued }
  match result with
  | .ok value => pure value
  | .error fault => throw fault

def ofResult {α : Type} (result : Result α) : Dispatching α :=
  match result with
  | .ok value => pure value
  | .error fault => throw fault

def note (entries : List JournalEntry) : Dispatching Unit :=
  modify fun dispatcher => { dispatcher with journal := dispatcher.journal ++ entries }

/-- How many submissions the triggers still have to make. -/
def pending (dispatcher : Dispatcher) : Nat :=
  (dispatcher.triggers.map Trigger.remaining).foldr (· + ·) 0

/-- The places of the triggers that hear of an event: those of its name come first. -/
def hearers (dispatcher : Dispatcher) (event : String) : List Nat :=
  let places := List.range dispatcher.triggers.length
  let listening (name : String) :=
    places.filter fun i => (dispatcher.triggers[i]?.map Trigger.event) == some name
  listening event ++ listening "*"

/-- What the trigger at a place submits now, and the dispatcher with one submission less to come. -/
def draw? (dispatcher : Dispatcher) (place : Nat) (record : EventRecord) :
    Option (Submission × Dispatcher) :=
  match dispatcher.triggers[place]? with
  | some trigger =>
    match trigger.remaining with
    | 0 => none
    | remaining + 1 =>
      let triggers := dispatcher.triggers.set place { trigger with remaining }
      some (trigger.effect.submission remaining record, { dispatcher with triggers })
  | none => none

/-! ## Events and those who hear of them -/

section Hearing

variable (submit : Submission → Dispatching (List Outcome))

/-- Lets the trigger at a place submit what it submits.  A failed submission harms nobody. -/
def fire (record : EventRecord) (place : Nat) : Dispatching Unit := do
  match (← get).draw? place record with
  | none => pure ()
  | some (submission, drawn) =>
    let index := drawn.firings.length
    let firing : Firing :=
      { event := record.event.name, waiting := drawn.queue.length, applying := drawn.applying }
    set { drawn with firings := drawn.firings ++ [firing] }
    try
      let outcomes ← submit submission
      let types := some (outcomes.map Outcome.type)
      modify fun d => { d with firings := d.firings.set index { firing with types } }
    catch _ => pure ()

/-- Lets every trigger that hears of an event submit, then publishes the event. -/
def hear (record : EventRecord) : Dispatching Unit := do
  for place in (← get).hearers record.event.name do fire submit record place
  modify fun d => { d with stage := { d.stage with published := d.stage.published ++ [record] } }

def hearAll (records : List EventRecord) : Dispatching Unit := do
  for record in records do hear submit record

/-- Does something on the stage, and gives what it publishes without publishing it. -/
def act {α : Type} (action : Action α) : Dispatching (Result α × List EventRecord) := do
  let dispatcher ← get
  let (result, stage) := (action.run).run { dispatcher.stage with published := [] }
  set { dispatcher with stage := { stage with published := dispatcher.stage.published } }
  pure (result, stage.published)

def announce {α : Type} (action : Action α) : Dispatching α := do
  let (result, records) ← act action
  hearAll submit records
  ofResult result

/-! ## Applying -/

def performance (batch : Batch) : Result Outcome → List JournalEntry
  | .ok outcome => [.performed batch outcome]
  | .error _ => []

/-- Does one part of a bundle.  The triggers can only let bundles wait meanwhile, so it makes no
difference that they hear of the part once it is done. -/
def performPart (batch : Batch) (part : Action Outcome) : Dispatching Outcome := do
  let (result, records) ← act (Effect.perform part)
  note (performance batch result)
  hearAll submit records
  ofResult result

def conclude (entry : Dispatcher → JournalEntry) : Dispatching Unit :=
  modify fun d => { d with applying := false, journal := d.journal ++ [entry d] }

/-- Does the parts of a bundle; whatever is submitted meanwhile waits. -/
def applyParts (batch : Batch) (queued : Bool) : Dispatching (List Outcome) := do
  modify fun d => { d with applying := true }
  try
    let outcomes ← batch.effect.parts.mapM (performPart submit batch)
    conclude fun _ => .applied batch queued outcomes
    pure outcomes
  catch fault =>
    conclude fun d => .failed batch queued d.queue.length
    throw fault

/-- Applies one bundle.  What triggers submit when they hear that it was applied does not wait. -/
def run (batch : Batch) (queued : Bool) : Dispatching (List Outcome) := do
  let outcomes ← applyParts submit batch queued
  announce submit (Effect.finish outcomes queued)
  pure outcomes

def drain : Nat → Dispatching Unit
  | 0 => pure ()
  | fuel + 1 => do
    match (← get).queue with
    | [] => pure ()
    | batch :: queue =>
      modify fun d => { d with queue }
      let _ ← run submit batch true
      drain fuel

/-- Each bundle that waits is applied once, and each submission lets one more wait at most. -/
def load (dispatcher : Dispatcher) : Nat :=
  dispatcher.queue.length + dispatcher.pending

/-- Applies a bundle now and then all that waits.  When it fails, what waits is dropped. -/
def process (batch : Batch) : Dispatching (List Outcome) := do
  let outcomes ←
    tryCatch (run submit batch false) fun fault => do
      modify fun d => { d with queue := [] }
      throw fault
  drain submit (← get).load
  pure outcomes

def register (effect : Effect) : Dispatching Batch := do
  let dispatcher ← get
  let batch : Batch := ⟨(Journal.submissions dispatcher.journal).length, effect⟩
  note [.submitted batch dispatcher.queue.length dispatcher.applying]
  pure batch

def enqueue (batch : Batch) : Dispatching Unit :=
  modify fun d => { d with queue := d.queue ++ [batch] }

/-- Applies what is submitted, or lets it wait while another bundle is being applied. -/
def receive (submission : Submission) : Dispatching (List Outcome) := do
  match ← issuing submission.read with
  | none => pure []
  | some effect =>
    let batch ← register effect
    if (← get).applying then
      enqueue batch
      pure []
    else process submit batch

end Hearing

/-! ## Operations -/

/-- Submissions are made one inside another at most so deep. -/
def submitWithin : Nat → Submission → Dispatching (List Outcome)
  | 0, _ => pure []
  | depth + 1, submission => receive (submitWithin depth) submission

/-- Each submission inside another one is a trigger's. -/
def submit (submission : Submission) : Dispatching (List Outcome) := do
  submitWithin ((← get).pending + 1) submission

/-- Takes away the timed effects that have run out, each announced to the triggers. -/
def expire (now : Instant) : Dispatching (List TimedEffect) := do
  let lapsed := (← get).stage.state.lapsed now
  for effect in lapsed do
    announce submit do
      effect.lapse
      Action.publish effect.lapseEvent
  pure lapsed

def reset (dispatcher : Dispatcher) : Dispatcher :=
  { dispatcher with queue := [], applying := false }

end Dispatcher

end InteractiveFiction
