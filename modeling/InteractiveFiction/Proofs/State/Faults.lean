import InteractiveFiction.Proofs.Course
import InteractiveFiction.State

/-!
The faults that a document shows when it is read as a state.

Content that breaks a rule, malformed numbers, absent keys and values of a wrong kind are the faults
of reading (`Fault.isOfReading`).  Two more come up: a value that is no object where fields are
asked for, and a number with no integer or no double of its size (`Fault.escapesReading`).
-/

set_option autoImplicit false

namespace InteractiveFiction

namespace Fault

/-- The faults of a document that are not taken for faults of reading. -/
def escapesReading : Fault → Bool
  | .noField .. | .range _ => true
  | _ => false

/-- A fault that a document may show when it is read. -/
def IsOfDocument (fault : Fault) : Prop :=
  fault.isOfReading = true ∨ fault.escapesReading = true

end Fault

/-- A result that fails only as documents do. -/
abbrev Result.Read {α : Type} (r : Result α) : Prop :=
  Result.FailsIn Fault.IsOfDocument r

/-! ## Values -/

theorem Number.toInt_read (n : Number) : Result.Read n.toInt := by
  unfold Number.toInt
  split
  · exact .pure _
  · split
    · exact .throw (.inl rfl)
    · exact .throw (.inr rfl)
    · exact .pure _

theorem Number.toFloat?_read (n : Number) : Result.Read n.toFloat? := by
  unfold Number.toFloat?
  split
  · split
    · exact .throw (.inr rfl)
    · exact .pure _
  · exact .pure _

namespace Document

theorem toInt_read (d : Document) : Result.Read d.toInt := by
  unfold toInt
  split
  · split
    · exact .pure _
    · exact .throw (.inl rfl)
    · exact .throw (.inl rfl)
  · split
    · exact Number.toInt_read _
    · exact .throw (.inl rfl)

theorem toFloat_read (d : Document) : Result.Read d.toFloat := by
  unfold toFloat
  split
  · split
    · exact .pure _
    · exact .throw (.inl rfl)
  · split
    · exact Number.toFloat?_read _
    · exact .throw (.inl rfl)

theorem toItems_read (d : Document) : Result.Read d.toItems := by
  unfold toItems
  split
  · exact .pure _
  · exact .pure _
  · exact .pure _
  · exact .throw (.inl rfl)

theorem fields_read (d : Document) (access : String) : Result.Read (d.fields access) := by
  unfold fields
  split
  · exact .pure _
  · exact .throw (.inr rfl)

theorem require_read (d : Document) (key : String) : Result.Read (d.require key) := by
  unfold require
  split
  · split
    · exact .pure _
    · exact .throw (.inl rfl)
  · exact .throw (.inl rfl)

end Document

/-! ## Parts of a state -/

theorem Item.ofDocument_read (d : Document) : Result.Read (Item.ofDocument d) := by
  unfold Item.ofDocument
  refine .bind (d.fields_read _) fun _ => ?_
  dsimp only
  split
  · exact .throw (.inl rfl)
  · exact .bind (Document.toInt_read _) fun _ => .bind (Document.toInt_read _) fun _ => .pure _

theorem FlagValue.check_read (key value : Document) : Result.Read (FlagValue.check key value) := by
  unfold FlagValue.check
  split
  · split
    · exact .throw (.inl rfl)
    · split
      · exact .pure _
      · exact .throw (.inl rfl)
  · exact .throw (.inl rfl)

theorem Flags.ofFields_read (fields : Fields) : Result.Read (Flags.ofFields fields) :=
  .foldlM (fun _ _ => .bind (FlagValue.check_read _ _) fun _ => .pure _) fields _

theorem Equipment.ofFields_read (fields : Fields) : Result.Read (Equipment.ofFields fields) :=
  .foldlM (fun _ _ => .bind (Item.ofDocument_read _) fun _ => .pure _) fields _

theorem Player.attributesIn_read (d : Option Document) : Result.Read (Player.attributesIn d) := by
  unfold Player.attributesIn
  split
  · refine .bind (Document.fields_read _ _) fun fields => ?_
    exact .foldlM (fun _ _ => .bind (Document.toInt_read _) fun _ => .pure _) fields _
  · exact .pure _

theorem Player.ofDocument_read (d : Document) : Result.Read (Player.ofDocument d) := by
  unfold Player.ofDocument
  refine .bind (d.fields_read _) fun fields => ?_
  have int (d : Document) := d.toInt_read
  exact .bind (int _) fun _ => .bind (int _) fun _ => .bind (int _) fun _ => .bind (int _) fun _ =>
    .bind (int _) fun _ => .bind (int _) fun _ => .bind (int _) fun _ =>
    .bind (Player.attributesIn_read _) fun _ => .bind (Document.fields_read _ _) fun _ =>
    .bind (Equipment.ofFields_read _) fun _ => .bind (int _) fun _ => .pure _

theorem ChoiceRecord.ofDocument_read (now : Instant) (d : Document) :
    Result.Read (ChoiceRecord.ofDocument now d) :=
  .bind (d.require_read _) fun _ => .bind (d.fields_read _) fun _ => .pure _

theorem Progress.ofDocument_read (now : Instant) (d : Document) :
    Result.Read (Progress.ofDocument now d) := by
  unfold Progress.ofDocument
  refine .bind (d.fields_read _) fun _ => .bind (Document.toItems_read _) fun _ =>
    .bind (Document.toItems_read _) fun _ => .bind (.mapM fun record _ => ?_) fun _ =>
    .bind (Document.toItems_read _) fun _ => .bind (Document.toInt_read _) fun _ =>
    .bind (Document.toInt_read _) fun _ => .pure _
  exact ChoiceRecord.ofDocument_read now record

theorem Settings.ofDocument_read (d : Document) : Result.Read (Settings.ofDocument d) :=
  .bind (d.fields_read _) fun _ => .bind (Document.toFloat_read _) fun _ => .pure _

theorem TimedEffect.ofDocument_read (d : Document) : Result.Read (TimedEffect.ofDocument d) :=
  .bind (d.require_read _) fun _ => .bind (d.require_read _) fun _ =>
    .bind (d.require_read _) fun start => .bind start.toFloat_read fun _ =>
    .bind (d.require_read _) fun duration => .bind duration.toFloat_read fun _ =>
    .bind (d.fields_read _) fun _ => .pure _

theorem StateMetadata.ofDocument_read (now : Instant) (d : Document) :
    Result.Read (StateMetadata.ofDocument now d) :=
  .bind (d.fields_read _) fun _ => .pure _

/-! ## States -/

namespace GameState

theorem relationshipsOf_read (fields : Fields) : Result.Read (relationshipsOf fields) :=
  .foldlM (fun _ _ => .bind (Document.toInt_read _) fun _ => .pure _) fields _

theorem timedEffectsOf_read (fields : Fields) : Result.Read (timedEffectsOf fields) :=
  .foldlM (fun _ _ => .bind (TimedEffect.ofDocument_read _) fun _ => .pure _) fields _

theorem ofDocument_read (now : Instant) (d : Document) : Result.Read (ofDocument now d) := by
  unfold ofDocument
  refine .bind (d.fields_read _) fun fields => ?_
  dsimp only
  split
  · exact .throw (.inl rfl)
  · split
    · exact .bind (Player.ofDocument_read _) fun _ =>
        .bind (.mapM fun item _ => Item.ofDocument_read item) fun _ =>
        .bind (Document.fields_read _ _) fun _ => .bind (Flags.ofFields_read _) fun _ =>
        .bind (Document.fields_read _ _) fun _ => .bind (relationshipsOf_read _) fun _ =>
        .bind (Progress.ofDocument_read now _) fun _ => .bind (Settings.ofDocument_read _) fun _ =>
        .bind (Document.fields_read _ _) fun _ => .bind (timedEffectsOf_read _) fun _ =>
        .bind (StateMetadata.ofDocument_read now _) fun _ => .pure _
    · exact .throw (.inl rfl)

end GameState

end InteractiveFiction
