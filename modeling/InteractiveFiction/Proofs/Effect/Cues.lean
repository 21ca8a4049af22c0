import InteractiveFiction.Proofs.Effect.Heedless
import InteractiveFiction.Proofs.Effect.Teleport

/-!
What the sink makes of its calls shows in the outcomes of sounds and of music only.

* `Outcome.Agrees`: the same outcome, or two of sounds, or two of music.
* `Event.Agrees`: the same event, or the outcomes it tells of agree.
* `Stage.Agrees`: stages that differ in their sinks, and in what was published as far as that agrees.
* `Effect.process_agrees`: on such stages a bundle has outcomes that agree, and leaves such stages.
-/

set_option autoImplicit false

namespace InteractiveFiction

open Course

/-! ## Outcomes -/

/-- What became of a sound or of music. -/
structure Outcome.OfCue (outcome : Outcome) : Prop where
  type : outcome.type = "sound" ∨ outcome.type = "music"
  stays : outcome.Stays

namespace Outcome

/-- The same outcome, or two of cues of one kind at one time. -/
inductive Agrees : Outcome → Outcome → Prop where
  | same (outcome : Outcome) : Agrees outcome outcome
  | cue {outcome other : Outcome} (ofCue : outcome.OfCue) (ofCue' : other.OfCue)
      (type : outcome.type = other.type) (timestamp : outcome.timestamp = other.timestamp) :
      Agrees outcome other

theorem Stays.not_teleport {outcome : Outcome} (h : outcome.Stays) :
    (outcome.success && Fields.getD outcome.metadata "customType" .null == .text "teleport") =
      false := by
  rw [Bool.and_eq_false_iff, beq_eq_false_iff_ne]
  exact .inr h

/-- Outcomes that agree send the player to the same place. -/
theorem teleportTarget_of_agrees {outcomes others : List Outcome}
    (h : List.Forall₂ Agrees outcomes others) : teleportTarget outcomes = teleportTarget others := by
  unfold teleportTarget
  suffices targets : outcomes.filter _ = others.filter _ by rw [targets]
  induction h with
  | nil => rfl
  | cons one _ ih =>
    cases one with
    | same => rw [List.filter_cons, List.filter_cons, ih]
    | cue ofCue ofCue' _ _ =>
      rw [List.filter_cons_of_neg, List.filter_cons_of_neg, ih]
      · rw [ofCue'.stays.not_teleport]
        exact Bool.false_ne_true
      · rw [ofCue.stays.not_teleport]
        exact Bool.false_ne_true

end Outcome

/-! ## Events -/

inductive Event.Agrees : Event → Event → Prop where
  | same (event : Event) : Agrees event event
  | part {outcome other : Outcome} (h : outcome.Agrees other) :
      Agrees (.effectProcessed outcome.toDocument) (.effectProcessed other.toDocument)
  | bundle {outcomes others : List Outcome} (h : List.Forall₂ Outcome.Agrees outcomes others)
      (queued : Bool) :
      Agrees (.effectsProcessed (outcomes.map Outcome.toDocument) queued)
        (.effectsProcessed (others.map Outcome.toDocument) queued)

structure EventRecord.Agrees (record other : EventRecord) : Prop where
  event : record.event.Agrees other.event
  timestamp : record.timestamp = other.timestamp

/-- Publishing events that agree, at one time, keeps what was published in agreement. -/
theorem EventRecord.agrees_concat {published others : List EventRecord}
    (h : List.Forall₂ Agrees published others) {event other : Event} (agrees : event.Agrees other)
    (now : Instant) :
    List.Forall₂ Agrees (published ++ [⟨event, now⟩]) (others ++ [⟨other, now⟩]) :=
  List.rel_append h (.cons ⟨agrees, rfl⟩ .nil)

/-! ## Stages -/

inductive Stage.Agrees : Stage → Stage → Prop where
  | intro {stage : Stage} {audio : Option AudioSink} {published : List EventRecord}
      (sinks : stage.audio.isSome = audio.isSome)
      (agree : List.Forall₂ EventRecord.Agrees stage.published published) :
      Agrees stage { stage with audio, published }

theorem Stage.Agrees.publish {s t : Stage} (h : s.Agrees t) {event other : Event}
    (agrees : event.Agrees other) : (s.publish event).Agrees (t.publish other) := by
  cases h with
  | intro sinks agree => exact .intro sinks (EventRecord.agrees_concat agree agrees s.now)

instance : Stage.Likeness Stage.Agrees where
  state h := by cases h; rfl
  now h := by cases h; rfl
  modifyState change h := by
    cases h with
    | intro sinks agree => exact .intro sinks agree
  publish _ h := h.publish (.same _)

theorem Action.publish_agrees {event other : Event} (h : event.Agrees other) :
    Tracks Stage.Agrees (Action.publish event) (Action.publish other) :=
  .modify fun _ _ agree => agree.publish h

/-! ## Bundles -/

namespace Effect

/-- The outcome of a cue that was done on its own. -/
theorem ofCue_of_heading {outcome : Outcome} {type : String} (h : type = "sound" ∨ type = "music")
    (headed : outcome.heading = (type, .null)) : outcome.OfCue where
  type := by
    have isType : outcome.type = type := congrArg Prod.fst headed
    rwa [isType]
  stays := Outcome.stays_of_heading headed nofun

theorem applyCue_agrees {type : String} (h : type = "sound" ∨ type = "music")
    (muted played : String) (enabled : Document) (cue : AudioCue) (call : AudioCall) :
    Matches Stage.Agrees Outcome.Agrees (applyCue type muted played enabled cue call)
      (applyCue type muted played enabled cue call) := by
  refine .intro fun s t agrees => ?_
  obtain ⟨told, ends, headed, isNow⟩ := applyCue_ends type muted played enabled cue call s
  obtain ⟨told', ends', headed', isNow'⟩ := applyCue_ends type muted played enabled cue call t
  have ofCue := ofCue_of_heading h headed
  have ofCue' := ofCue_of_heading h headed'
  refine ⟨_, _, _, _, ends, ends', .ok (.cue ofCue ofCue' ?_ ?_), ?_⟩
  · exact congrArg Prod.fst (headed.trans headed'.symm)
  · rw [isNow, isNow', Stage.Likeness.now agrees]
  · cases agrees with
    | intro sinks agree =>
      rw [← sinks]
      split
      · exact .intro sinks agree
      · exact .intro sinks agree

theorem parts_agree (effect : Effect) :
    ∀ part ∈ effect.parts, Matches Stage.Agrees Outcome.Agrees part part := by
  have same : ∀ part, Blind Stage.Agrees part → Matches Stage.Agrees Outcome.Agrees part part :=
    fun part blind => blind.matching.mono fun outcome _ same => same ▸ .same outcome
  refine forall_mem_parts_of_blind effect same (fun cue => ?_) fun cue => ?_
  · exact .bind_of_tracks Action.blind_state fun _ => applyCue_agrees (.inl rfl) _ _ _ _ _
  · exact .bind_of_tracks Action.blind_state fun _ => applyCue_agrees (.inr rfl) _ _ _ _ _

theorem perform_agrees {part : Action Outcome} (h : Matches Stage.Agrees Outcome.Agrees part part) :
    Matches Stage.Agrees Outcome.Agrees (perform part) (perform part) :=
  .bind h fun _ _ agrees => .bind_of_tracks (Action.publish_agrees (.part agrees)) fun _ => .pure agrees

theorem finish_agrees {outcomes others : List Outcome}
    (h : List.Forall₂ Outcome.Agrees outcomes others) (queued : Bool) :
    Tracks Stage.Agrees (finish outcomes queued) (finish others queued) :=
  .bind Action.blind_now fun now =>
    .bind (Action.blind_modifyState (GameState.impartial_touch now)) fun _ =>
      Action.publish_agrees (.bundle h queued)

theorem apply_agrees (effect : Effect) :
    Matches Stage.Agrees (List.Forall₂ Outcome.Agrees) effect.apply effect.apply :=
  .mapM effect.parts fun part mem => perform_agrees (effect.parts_agree part mem)

theorem process_agrees (effect : Effect) :
    Matches Stage.Agrees (List.Forall₂ Outcome.Agrees) effect.process effect.process := by
  refine .bind effect.apply_agrees ?_
  exact fun _ _ agree => .bind_of_tracks (finish_agrees agree false) fun _ => .pure agree

end Effect

end InteractiveFiction
