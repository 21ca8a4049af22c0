import InteractiveFiction.Proofs.Course
import InteractiveFiction.Stage

/-!
The backdrop of a bundle: what applying bundles, using items, meeting characters and the expiry of
curses leave as it is.

They change what a player is and has; they never change which game of which story it is, the scene
it stands at, its history or its settings (`GameState.standing`).  What they announce is told apart
by name from what the turns of a game announce (`Event.isOfBundle`).  And they never fail with a
fault of the rules: a bundle fails only on numbers and values of a wrong kind
(`Fault.IsAccident`).
-/

set_option autoImplicit false

namespace InteractiveFiction

open Course

/-- A fault that no rule raises: a malformed number, an absent key, a value of a wrong kind. -/
def Fault.IsAccident (fault : Fault) : Prop :=
  fault.isOfGame = false

/-- Which game of which story it is, where it stands, what was done in it and how it is set. -/
structure Standing where
  id : Document
  story : Document
  scene : Document
  progress : Progress
  settings : Settings

def GameState.standing (state : GameState) : Standing :=
  ⟨state.id, state.storyId, state.currentSceneId, state.progress, state.settings⟩

namespace Event

/-- The names under which bundles, items and characters announce what they do. -/
def bundleNames : List String := [
  "effectProcessed", "effectsProcessed", "criticalHealth", "playerDeath", "levelUp", "teleport",
  "timedEffectExpired", "gameEvent", "inventoryChanged", "inventoryFull", "itemUsed",
  "relationshipChanged", "characterInteraction"]

def isOfBundle (event : Event) : Bool :=
  bundleNames.contains event.name

end Event

/-- What was announced that is not of bundles. -/
def announcements (published : List EventRecord) : List EventRecord :=
  published.filter fun record => !record.event.isOfBundle

/-- What is left alone of a stage. -/
def Stage.backdrop (stage : Stage) : Standing × List EventRecord :=
  (stage.state.standing, announcements stage.published)

/-- A computation on a stage that leaves the backdrop alone and fails only by accident. -/
abbrev InFront {α : Type} (action : Action α) : Prop :=
  Confined Stage.backdrop Fault.IsAccident action

/-! ## Results that fail by accident -/

abbrev Result.Slips {α : Type} (r : Result α) : Prop :=
  Result.FailsIn Fault.IsAccident r

/-- The faults of numbers for which there is no integer or no double, or that are too long to be
written. -/
def Fault.isOfNumbers : Fault → Bool
  | .range _ | .value .noIntOfNaN | .value .intUnwritable => true
  | _ => false

theorem Fault.isAccident_of_numbers {fault : Fault} (h : fault.isOfNumbers = true) :
    fault.IsAccident := by
  unfold isOfNumbers at h
  split at h
  · rfl
  · rfl
  · rfl
  · cases h

abbrev Result.FailsByNumber {α : Type} (r : Result α) : Prop :=
  Result.FailsIn (fun fault => fault.isOfNumbers = true) r

theorem Result.FailsByNumber.slips {α : Type} {r : Result α} (h : r.FailsByNumber) :
    Result.Slips r :=
  h.weaken fun _ => Fault.isAccident_of_numbers

namespace Number

theorem written_failsByNumber (n : Number) : Result.FailsByNumber n.written := by
  unfold written
  split
  · exact .pure _
  · exact .throw rfl

theorem toInt_failsByNumber (n : Number) : Result.FailsByNumber n.toInt := by
  unfold toInt
  split
  · exact .pure _
  · split
    · exact .throw rfl
    · exact .throw rfl
    · exact .pure _

theorem toFloat?_failsByNumber (n : Number) : Result.FailsByNumber n.toFloat? := by
  unfold toFloat?
  split
  · split
    · exact .throw rfl
    · exact .pure _
  · exact .pure _

theorem plus_failsByNumber (a b : Number) : Result.FailsByNumber (a.plus b) := by
  unfold plus
  split
  · exact .pure _
  · exact .bind (toFloat?_failsByNumber _) fun _ => .bind (toFloat?_failsByNumber _) fun _ => .pure _

theorem dividedBy_failsByNumber (n : Number) (divisor : Nat) :
    Result.FailsByNumber (n.dividedBy divisor) := by
  unfold dividedBy
  split
  · dsimp only
    split
    · exact .throw rfl
    · exact .pure _
  · exact .pure _

theorem floor_failsByNumber (n : Number) : Result.FailsByNumber n.floor := by
  unfold floor
  split
  · exact .pure _
  · split
    · exact .throw rfl
    · exact .throw rfl
    · exact .pure _

theorem toInt_slips (n : Number) : Result.Slips n.toInt :=
  n.toInt_failsByNumber.slips

theorem toFloat?_slips (n : Number) : Result.Slips n.toFloat? :=
  n.toFloat?_failsByNumber.slips

end Number

theorem Document.toFields_slips (d : Document) (access : String) :
    Result.Slips (d.fields access) := by
  unfold Document.fields
  split
  · exact .pure _
  · exact .throw rfl

theorem Document.toInt_slips (d : Document) : Result.Slips d.toInt := by
  unfold Document.toInt
  split
  · split
    · exact .pure _
    · exact .throw rfl
    · exact .throw rfl
  · split
    · exact Number.toInt_slips _
    · exact .throw rfl

theorem Document.require_slips (d : Document) (key : String) : Result.Slips (d.require key) := by
  unfold Document.require
  split
  · split
    · exact .pure _
    · exact .throw rfl
  · exact .throw rfl

theorem Document.checkKey_failsIn {faults : Fault → Prop} {d : Document}
    (odd : d.isKey = false → faults (.mistyped (.notAnId d.kind))) :
    Result.FailsIn faults d.checkKey := by
  unfold Document.checkKey
  split
  · exact .pure ()
  · rename_i other
    exact .throw (odd (Bool.eq_false_iff.2 other))

theorem Document.isKey_of_checkKey {d : Document} (checked : d.checkKey = .ok ()) :
    d.isKey = true := by
  unfold Document.checkKey at checked
  split at checked
  · assumption
  · cases checked

theorem Document.checkKey_slips (d : Document) : Result.Slips d.checkKey :=
  Document.checkKey_failsIn fun _ => rfl

theorem Document.joined_slips (separator : String) (parts : List Document) :
    Result.Slips (Document.joined separator parts) := by
  unfold Document.joined
  split
  · exact .throw rfl
  · exact .pure _

theorem Document.toItems_slips (d : Document) : Result.Slips d.toItems := by
  unfold Document.toItems
  split
  · exact .pure _
  · exact .pure _
  · exact .pure _
  · exact .throw rfl

/-! ## Primitive actions -/

/-- Events are announced in their order, all at one time. -/
theorem Stage.publishAll_eq (stage : Stage) (events : List Event) :
    stage.publishAll events = { stage with
      published := stage.published ++ events.map fun event => ⟨event, stage.now⟩ } := by
  unfold publishAll
  induction events generalizing stage with
  | nil => rw [List.foldl_nil, List.map_nil, List.append_nil]
  | cons event events ih =>
    rw [List.foldl_cons, ih, publish, List.map_cons, List.append_assoc, List.singleton_append]

/-- What is announced is not part of the state. -/
@[simp] theorem Stage.state_publishAll (stage : Stage) (events : List Event) :
    (stage.publishAll events).state = stage.state := by
  rw [publishAll_eq]

namespace Action

variable {α : Type} {γ : Type} {view : Stage → γ} {faults : Fault → Prop}

theorem outcome_state (stage : Stage) : outcome Action.state stage = (.ok stage.state, stage) :=
  rfl

theorem outcome_modifyPlayer (change : Player → Player) (stage : Stage) :
    outcome (Action.modifyPlayer change) stage = (.ok (), { stage with state :=
      { stage.state with player := change stage.state.player } }) :=
  rfl

theorem outcome_lift (r : Result α) (stage : Stage) :
    outcome (liftM r : Action α) stage = (r, stage) := by
  cases r <;> rfl

theorem confined_lift {r : Result α} (h : Result.FailsIn faults r) :
    Confined view faults (liftM r : Action α) :=
  .intro fun stage => by
    rw [outcome_lift]
    exact ⟨rfl, h⟩

theorem confined_state : Confined view faults Action.state :=
  .bind .get fun stage => .pure stage.state

theorem confined_now : Confined view faults Action.now :=
  .bind .get fun stage => .pure stage.now

theorem confined_modifyState {change : GameState → GameState}
    (h : ∀ state, (change state).standing = state.standing) :
    Confined Stage.backdrop faults (Action.modifyState change) :=
  .modify fun stage => Prod.ext (h stage.state) rfl

theorem confined_modifyPlayer (change : Player → Player) :
    Confined Stage.backdrop faults (Action.modifyPlayer change) :=
  confined_modifyState fun _ => rfl

theorem announcements_publish {event : Event} (h : event.isOfBundle = true) (stage : Stage) :
    announcements (stage.publish event).published = announcements stage.published := by
  simp [Stage.publish, announcements, h]

theorem confined_publish {event : Event} (h : event.isOfBundle = true) :
    Confined Stage.backdrop faults (Action.publish event) :=
  .modify fun stage => Prod.ext rfl (announcements_publish h stage)

theorem confined_publishAll {events : List Event} (h : ∀ event ∈ events, event.isOfBundle = true) :
    Confined Stage.backdrop faults (modify fun stage => stage.publishAll events : Action Unit) := by
  refine .modify fun stage => ?_
  have none : announcements (events.map fun event => ⟨event, stage.now⟩) = [] := by
    simpa [announcements] using h
  rw [Stage.publishAll_eq]
  refine Prod.ext rfl ?_
  change announcements (stage.published ++ _) = announcements stage.published
  rw [announcements, List.filter_append]
  exact (congrArg _ none).trans (List.append_nil _)

theorem confined_play (sink : AudioSink) (call : AudioCall) :
    Confined Stage.backdrop faults (Action.play sink call) :=
  .bind .get fun _ => .bind (.modify fun _ => rfl) fun _ => .pure _

end Action

end InteractiveFiction
