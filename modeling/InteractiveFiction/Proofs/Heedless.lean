import InteractiveFiction.Proofs.Backdrop
import InteractiveFiction.Proofs.Simulation

/-!
Actions that take no heed of what was published before them, nor of the books of a game.

* `Books`: whether and how often a game is to be saved by itself, and when it was last saved and
  last changed; nothing in play looks at them.  `GameState.booked`: the game with other books.
* `closings`: the events that announce that all of a bundle was applied.
* `reports`: those, and the events that tell of its outcomes one by one.
* `Stage.Semblance rel`: stages that `rel` relates show games that differ in their books at most, now
  and after each change that is the same whatever the books say.
* `Stage.Likeness rel`: stages that `rel` relates show the same game, now and after each change.
* `Blind rel action`: on stages that `rel` relates, the action gives the same and leaves them so.
* `Stage.silent`: a stage apart from what was published.
* `Heedless action`: the action is blind to what was published, and closes no bundle.
-/

set_option autoImplicit false

namespace InteractiveFiction

open Course

/-! ## Books -/

structure Books where
  autosave : Document
  autosaveInterval : Document
  lastSaved : Document
  lastModified : Document

namespace GameState

def books (state : GameState) : Books where
  autosave := state.settings.autosave
  autosaveInterval := state.settings.autosaveInterval
  lastSaved := state.progress.lastSaved
  lastModified := state.metadata.lastModified

def booked (state : GameState) (books : Books) : GameState :=
  { state with
    progress := { state.progress with lastSaved := books.lastSaved }
    settings := { state.settings with
      autosave := books.autosave, autosaveInterval := books.autosaveInterval }
    metadata := { state.metadata with lastModified := books.lastModified } }

variable (state : GameState)

@[simp] theorem booked_booked (books others : Books) :
    (state.booked books).booked others = state.booked others := rfl

end GameState

namespace Settings

variable (settings : Settings)

/-- What a change makes of the other settings does not depend on when the game is saved. -/
theorem change_rescheduled (autosave autosaveInterval : Document) (name : String)
    (value : Document) : ∃ autosave' autosaveInterval',
    { settings with autosave, autosaveInterval }.change name value =
      { settings.change name value with
        autosave := autosave', autosaveInterval := autosaveInterval' } := by
  unfold change
  split <;> exact ⟨_, _, rfl⟩

theorem changeAll_rescheduled (autosave autosaveInterval : Document) (changes : Fields) :
    ∃ autosave' autosaveInterval',
      { settings with autosave, autosaveInterval }.changeAll changes =
        { settings.changeAll changes with
          autosave := autosave', autosaveInterval := autosaveInterval' } := by
  induction changes generalizing settings autosave autosaveInterval with
  | nil => exact ⟨autosave, autosaveInterval, rfl⟩
  | cons change changes ih =>
    obtain ⟨name, value⟩ := change
    obtain ⟨autosave', autosaveInterval', changed⟩ :=
      settings.change_rescheduled autosave autosaveInterval name value
    obtain ⟨autosave'', autosaveInterval'', rest⟩ :=
      ih (settings.change name value) autosave' autosaveInterval'
    refine ⟨autosave'', autosaveInterval'', ?_⟩
    rw [changeAll, List.foldl_cons]
    dsimp only
    rw [changed]
    exact rest

end Settings

/-! ## Closing events -/

namespace Event

def isClosing (event : Event) : Bool :=
  event.name == "effectsProcessed"

end Event

def closings (published : List EventRecord) : List Event :=
  (published.map EventRecord.event).filter Event.isClosing

theorem closings_append (published others : List EventRecord) :
    closings (published ++ others) = closings published ++ closings others := by
  simp [closings]

theorem closings_of_forall_not {published : List EventRecord}
    (h : ∀ record ∈ published, record.event.isClosing = false) : closings published = [] := by
  simp only [closings, List.filter_eq_nil_iff, List.mem_map]
  rintro event ⟨record, mem, rfl⟩
  simp [h record mem]

theorem closings_concat {event : Event} (h : event.isClosing = false) (published : List EventRecord)
    (now : Instant) : closings (published ++ [⟨event, now⟩]) = closings published := by
  have one : closings [⟨event, now⟩] = [] := closings_of_forall_not (by simpa using h)
  rw [closings_append, one, List.append_nil]

theorem not_isClosing_of_closings {published : List EventRecord} (h : closings published = [])
    {record : EventRecord} (mem : record ∈ published) : record.event.isClosing = false := by
  simp only [closings, List.filter_eq_nil_iff, List.mem_map] at h
  have none := h record.event ⟨record, mem, rfl⟩
  simpa using none

/-! ## Reports -/

namespace Event

/-- The events that tell of outcomes: of one, or of all those of a bundle. -/
def isReport (event : Event) : Bool :=
  event.name == "effectProcessed" || event.isClosing

theorem not_isClosing_of_not_isReport {event : Event} (h : event.isReport = false) :
    event.isClosing = false :=
  (Bool.or_eq_false_iff.1 h).2

end Event

def reports (published : List EventRecord) : List Event :=
  (published.map EventRecord.event).filter Event.isReport

theorem reports_publish_of_not {event : Event} (h : event.isReport = false) (stage : Stage) :
    reports (stage.publish event).published = reports stage.published := by
  simp [reports, Stage.publish, h]

theorem reports_publish_of_isReport {event : Event} (h : event.isReport = true) (stage : Stage) :
    reports (stage.publish event).published = reports stage.published ++ [event] := by
  simp [reports, Stage.publish, h]

/-! ## Stages that show the same game -/

/-- A change that does the same to a game whatever its books say. -/
def GameState.Impartial (change : GameState → GameState) : Prop :=
  ∀ state books, ∃ left, change (state.booked books) = (change state).booked left

theorem GameState.Impartial.of_commutes {change : GameState → GameState}
    (h : ∀ state books, change (state.booked books) = (change state).booked books) :
    Impartial change :=
  fun state books => ⟨books, h state books⟩

theorem GameState.impartial_touch (now : Instant) : Impartial fun state => state.touch now :=
  fun _ books => ⟨{ books with lastModified := Timestamp.text now }, rfl⟩

/-- What stages must have in common for the rules of a game to do the same on them. -/
class Stage.Semblance (rel : Stage → Stage → Prop) : Prop where
  books {s t : Stage} : rel s t → ∃ books, t.state = s.state.booked books
  now {s t : Stage} : rel s t → s.now = t.now
  modifyState {s t : Stage} {change : GameState → GameState} : GameState.Impartial change →
    rel s t → rel { s with state := change s.state } { t with state := change t.state }
  publish {s t : Stage} {event : Event} : event.isReport = false → rel s t →
    rel (s.publish event) (t.publish event)

/-- Stages on which even the books are the same. -/
class Stage.Likeness (rel : Stage → Stage → Prop) : Prop where
  state {s t : Stage} : rel s t → s.state = t.state
  now {s t : Stage} : rel s t → s.now = t.now
  modifyState {s t : Stage} (change : GameState → GameState) : rel s t →
    rel { s with state := change s.state } { t with state := change t.state }
  publish {s t : Stage} {event : Event} : event.isReport = false → rel s t →
    rel (s.publish event) (t.publish event)

instance {rel : Stage → Stage → Prop} [Stage.Likeness rel] : Stage.Semblance rel where
  books {s _} h := ⟨s.state.books, (Stage.Likeness.state h).symm⟩
  now h := Stage.Likeness.now h
  modifyState _ h := Stage.Likeness.modifyState _ h
  publish unreported h := Stage.Likeness.publish unreported h

abbrev Blind {α : Type} (rel : Stage → Stage → Prop) (action : Action α) : Prop :=
  Tracks rel action action

namespace Action

section

variable {rel : Stage → Stage → Prop} [Stage.Likeness rel]

theorem blind_state : Blind rel Action.state :=
  .intro fun s t h => ⟨.ok s.state, s, t, rfl, by rw [Stage.Likeness.state h]; rfl, h⟩

end

variable {rel : Stage → Stage → Prop}

theorem blind_lift {α : Type} (r : Result α) : Blind rel (liftM r : Action α) :=
  .intro fun s t h => ⟨r, s, t, outcome_lift r s, outcome_lift r t, h⟩

variable [Stage.Semblance rel]

/-- What looks at the game, but not at its books. -/
theorem blind_reading {α : Type} {f : GameState → Action α}
    (impartial : ∀ state books, f (GameState.booked state books) = f state)
    (h : ∀ state, Blind rel (f state)) : Blind rel (Action.state >>= f) := by
  have reads : Matches rel (fun state other => ∃ books, other = GameState.booked state books)
      Action.state Action.state :=
    fun _ _ related => ⟨.ok (Stage.Semblance.books related), related⟩
  refine .bind_of_matches reads fun state other same => ?_
  obtain ⟨books, rfl⟩ := same
  rw [impartial]
  exact h state

theorem blind_now : Blind rel Action.now :=
  .intro fun s t h => ⟨.ok s.now, s, t, rfl, by rw [Stage.Semblance.now h]; rfl, h⟩

theorem blind_modifyState {change : GameState → GameState} (h : GameState.Impartial change) :
    Blind rel (Action.modifyState change) :=
  .modify fun _ _ related => Stage.Semblance.modifyState h related

theorem blind_modifyPlayer (change : Player → Player) : Blind rel (Action.modifyPlayer change) :=
  blind_modifyState (.of_commutes fun _ _ => rfl)

theorem blind_publish {event : Event} (h : event.isReport = false) :
    Blind rel (Action.publish event) :=
  .modify fun _ _ alike => Stage.Semblance.publish h alike

theorem blind_publishAll {events : List Event} (h : ∀ event ∈ events, event.isReport = false) :
    Blind rel (modify fun stage => stage.publishAll events : Action Unit) := by
  refine .modify fun s t alike => ?_
  induction events generalizing s t with
  | nil => exact alike
  | cons event events ih =>
    refine ih (fun other mem => h other (by simp [mem])) _ _ ?_
    exact Stage.Semblance.publish (h event (by simp)) alike

end Action

/-! ## Stages alike but for what was published -/

def Stage.silent (stage : Stage) : Stage :=
  { stage with published := [] }

/-- Alike but for what was published; no bundle was closed on the first. -/
structure Stage.Alike (s t : Stage) : Prop where
  silent : s.silent = t.silent
  closings : closings s.published = []

namespace Stage.Alike

variable {s t : Stage}

theorem audio (h : Alike s t) : s.audio = t.audio :=
  (congrArg Stage.audio h.silent :)

theorem played (h : Alike s t) : s.played = t.played :=
  (congrArg Stage.played h.silent :)

/-- A stage on which nothing was published is like all that are so apart from that. -/
theorem of_silent (h : s.silent = t.silent) : Alike { s with published := [] } t :=
  ⟨h, rfl⟩

end Stage.Alike

theorem Stage.Alike.publish {s t : Stage} {event : Event} (opens : event.isClosing = false)
    (h : Alike s t) : Alike (s.publish event) (t.publish event) :=
  ⟨h.silent, (closings_concat opens _ _).trans h.closings⟩

instance : Stage.Likeness Stage.Alike where
  state h := (congrArg Stage.state h.silent :)
  now h := (congrArg Stage.now h.silent :)
  modifyState change h :=
    ⟨congrArg (fun stage : Stage => { stage with state := change stage.state }) h.silent, h.closings⟩
  publish unreported h := h.publish (Event.not_isClosing_of_not_isReport unreported)

/-- An action that does the same whatever was published, and closes no bundle. -/
abbrev Heedless {α : Type} (action : Action α) : Prop :=
  Blind Stage.Alike action

theorem Action.heedless_play (sink : AudioSink) (call : AudioCall) : Heedless (Action.play sink call) := by
  refine .intro fun s t h => ?_
  have complaint : s.complaint sink = t.complaint sink := by
    rw [Stage.complaint, Stage.complaint, h.played]
  refine ⟨.ok (s.complaint sink), _, { t with played := t.played ++ [call] }, rfl, ?_, ?_, ?_⟩
  · rw [complaint]
    rfl
  · exact congrArg (fun stage : Stage => { stage with played := stage.played ++ [call] }) h.silent
  · exact h.closings

/-! ## Either stage silent or not -/

abbrev Silently (s t : Stage) : Prop :=
  s.silent = t.silent

instance : Stage.Likeness Silently where
  state h := (congrArg Stage.state h :)
  now h := (congrArg Stage.now h :)
  modifyState change h :=
    congrArg (fun stage : Stage => { stage with state := change stage.state }) h
  publish _ h := h

/-- What takes no heed does the same on any two stages that differ in what was published only. -/
theorem Heedless.tracks_silent {α : Type} {action : Action α} (h : Heedless action) :
    Tracks Silently action action := by
  intro s t same
  obtain ⟨result, after⟩ := h _ s (Stage.Alike.of_silent rfl)
  obtain ⟨result', after'⟩ := h _ t (Stage.Alike.of_silent same)
  exact ⟨result.symm.trans result', after.silent.symm.trans after'.silent⟩

/-- It does not show in a silent stage what is published. -/
theorem Action.publish_silently (event event' : Event) :
    Tracks Silently (Action.publish event) (Action.publish event') :=
  .modify fun _ _ same => same

/-! ## Stages with the same reports -/

/-- One stage, on which these reports were made. -/
structure Stage.Reported (reported : List Event) (s t : Stage) : Prop where
  same : s = t
  reports : reports s.published = reported

instance (reported : List Event) : Stage.Likeness (Stage.Reported reported) where
  state h := congrArg Stage.state h.same
  now h := congrArg Stage.now h.same
  modifyState change h := ⟨by rw [h.same], h.reports⟩
  publish unreported h := ⟨by rw [h.same], (reports_publish_of_not unreported _).trans h.reports⟩

end InteractiveFiction
