import InteractiveFiction.Proofs.OrderedMap
import InteractiveFiction.State

/-!
What a state is that was read from a document, part by part.
-/

set_option autoImplicit false

namespace InteractiveFiction

theorem Document.object_of_fields {d : Document} {access : String} {fields : Fields}
    (h : d.fields access = .ok fields) : d = .object fields := by
  cases d with
  | object own =>
    cases h
    rfl
  | _ => cases h

/-! ## Players -/

/-- Of a player that was read, experience is a whole number, and equipment was read from its
field. -/
theorem Player.parts_of_ofDocument {d : Document} {player : Player}
    (read : Player.ofDocument d = .ok player) :
    ∃ (fields : Fields) (worn : Fields), d = .object fields ∧
      (fields.getOr "equipment" (.object [])).fields "items" = .ok worn ∧
      Equipment.ofFields worn = .ok player.equipment ∧ ∃ n, player.experience = .int n := by
  obtain ⟨fields, object, read⟩ := Result.ok_of_bind read
  obtain ⟨level, -, read⟩ := Result.ok_of_bind read
  obtain ⟨maxHealth, -, read⟩ := Result.ok_of_bind read
  obtain ⟨health, -, read⟩ := Result.ok_of_bind read
  obtain ⟨maxMana, -, read⟩ := Result.ok_of_bind read
  obtain ⟨mana, -, read⟩ := Result.ok_of_bind read
  obtain ⟨experience, -, read⟩ := Result.ok_of_bind read
  obtain ⟨gold, -, read⟩ := Result.ok_of_bind read
  obtain ⟨attributes, -, read⟩ := Result.ok_of_bind read
  obtain ⟨worn, wornObject, read⟩ := Result.ok_of_bind read
  obtain ⟨equipment, readEquipment, read⟩ := Result.ok_of_bind read
  obtain ⟨capacity, -, read⟩ := Result.ok_of_bind read
  cases read
  exact ⟨fields, worn, Document.object_of_fields object, wornObject, readEquipment, experience, rfl⟩

/-! ## States -/

namespace GameState

/-- Each part of the state was read from its field. -/
structure ReadFrom (now : Instant) (fields : Fields) (state : GameState) : Prop where
  required : ∀ key ∈ requiredFields, (fields.getD key .null).isTruthy = true
  id : state.id = fields.getD "id" .null
  storyId : state.storyId = fields.getD "storyId" .null
  currentSceneId : state.currentSceneId = fields.getD "currentSceneId" .null
  player : Player.ofDocument (fields.getD "player" .null) = .ok state.player
  inventory : ∃ items, fields.getD "inventory" (.list []) = .list items ∧
    items.mapM Item.ofDocument = .ok state.inventory
  flags : ∃ entries, (fields.getOr "flags" (.object [])).fields "items" = .ok entries ∧
    Flags.ofFields entries = .ok state.flags
  relationships : ∃ entries,
    (fields.getOr "relationships" (.object [])).fields "items" = .ok entries ∧
    relationshipsOf entries = .ok state.relationships
  progress : Progress.ofDocument now (fields.getOr "progress" (.object [])) = .ok state.progress
  settings : Settings.ofDocument (fields.getOr "settings" (.object [])) = .ok state.settings
  timedEffects : ∃ entries,
    (fields.getOr "timedEffects" (.object [])).fields "items" = .ok entries ∧
    timedEffectsOf entries = .ok state.timedEffects
  metadata : StateMetadata.ofDocument now (fields.getOr "metadata" (.object [])) =
    .ok state.metadata

theorem ReadFrom.of_ofDocument {now : Instant} {d : Document} {state : GameState}
    (read : ofDocument now d = .ok state) : ∃ fields, d = .object fields ∧ ReadFrom now fields state := by
  unfold ofDocument at read
  obtain ⟨fields, object, read⟩ := Result.ok_of_bind read
  dsimp only at read
  split at read
  · cases read
  · rename_i complete
    split at read
    · rename_i items inventory
      obtain ⟨player, readPlayer, read⟩ := Result.ok_of_bind read
      obtain ⟨things, readThings, read⟩ := Result.ok_of_bind read
      obtain ⟨flagFields, flagObject, read⟩ := Result.ok_of_bind read
      obtain ⟨flags, readFlags, read⟩ := Result.ok_of_bind read
      obtain ⟨relationFields, relationObject, read⟩ := Result.ok_of_bind read
      obtain ⟨relationships, readRelationships, read⟩ := Result.ok_of_bind read
      obtain ⟨progress, readProgress, read⟩ := Result.ok_of_bind read
      obtain ⟨settings, readSettings, read⟩ := Result.ok_of_bind read
      obtain ⟨timedFields, timedObject, read⟩ := Result.ok_of_bind read
      obtain ⟨timedEffects, readTimed, read⟩ := Result.ok_of_bind read
      obtain ⟨metadata, readMetadata, read⟩ := Result.ok_of_bind read
      cases read
      refine ⟨fields, ?_, {
        required := ?_
        id := rfl
        storyId := rfl
        currentSceneId := rfl
        player := readPlayer
        inventory := ⟨items, inventory, readThings⟩
        flags := ⟨flagFields, flagObject, readFlags⟩
        relationships := ⟨relationFields, relationObject, readRelationships⟩
        progress := readProgress
        settings := readSettings
        timedEffects := ⟨timedFields, timedObject, readTimed⟩
        metadata := readMetadata }⟩
      · exact Document.object_of_fields object
      · intro key mem
        by_cases lacking : (fields.getD key .null).isTruthy = true
        · exact lacking
        · have listed : key ∈ requiredFields.filter fun key =>
              !(fields.getD key .null).isTruthy := by
            rw [List.mem_filter]
            exact ⟨mem, by simpa using lacking⟩
          refine absurd ?_ complete
          simpa using List.ne_nil_of_mem listed
    · cases read

/-- A state is read from fields from which each of its parts is. -/
theorem ReadFrom.ofDocument_eq {now : Instant} {fields : Fields} {state : GameState}
    (read : ReadFrom now fields state) : ofDocument now (.object fields) = .ok state := by
  obtain ⟨required, id, storyId, scene, player, ⟨items, inventory, things⟩,
    ⟨flagFields, flagObject, flags⟩, ⟨relationFields, relationObject, relationships⟩, progress,
    settings, ⟨timedFields, timedObject, timedEffects⟩, metadata⟩ := read
  have complete : (requiredFields.filter fun key => !(fields.getD key .null).isTruthy) = [] := by
    rw [List.filter_eq_nil_iff]
    intro key mem
    simp [required key mem]
  unfold ofDocument
  rw [Result.bind_of_ok (rfl : Document.fields (.object fields) "get" = .ok fields)]
  simp only [complete, List.isEmpty_nil, Bool.not_true, Bool.false_eq_true, if_false]
  rw [inventory]
  dsimp only
  rw [Result.bind_of_ok player, Result.bind_of_ok things, Result.bind_of_ok flagObject,
    Result.bind_of_ok flags, Result.bind_of_ok relationObject, Result.bind_of_ok relationships,
    Result.bind_of_ok progress, Result.bind_of_ok settings, Result.bind_of_ok timedObject,
    Result.bind_of_ok timedEffects, Result.bind_of_ok metadata, ← id, ← storyId, ← scene]
  rfl

/-! ## Relationships -/

def RelationshipsInRange (state : GameState) : Prop :=
  ∀ entry ∈ state.relationships.entries, relationshipMin ≤ entry.2 ∧ entry.2 ≤ relationshipMax

theorem relationshipsInRange_starting (now : Instant) (id story scene player : Document)
    (settings : Settings) : (starting now id story scene player settings).RelationshipsInRange := by
  intro entry mem
  cases mem

end GameState

theorem clampRelationship_inRange (value : Int) :
    relationshipMin ≤ clampRelationship value ∧ clampRelationship value ≤ relationshipMax := by
  unfold clampRelationship clampInt relationshipMin relationshipMax
  omega

theorem clampRelationship_of_inRange {value : Int}
    (h : relationshipMin ≤ value ∧ value ≤ relationshipMax) : clampRelationship value = value := by
  unfold clampRelationship clampInt
  omega

theorem GameState.relationshipsInRange_of_ofDocument {now : Instant} {d : Document}
    {state : GameState} (read : ofDocument now d = .ok state) : state.RelationshipsInRange := by
  obtain ⟨fields, -, parts⟩ := ReadFrom.of_ofDocument read
  obtain ⟨entries, -, relationships⟩ := parts.relationships
  refine Result.ok_of_foldlM (P := fun known : OrderedMap Int => ∀ entry ∈ known.entries,
    relationshipMin ≤ entry.2 ∧ entry.2 ≤ relationshipMax) ?_ ?_ relationships
  · intro entry mem
    cases mem
  · intro known inRange item _ next step entry mem
    obtain ⟨value, -, inserted⟩ := Result.ok_of_bind step
    cases inserted
    rcases OrderedMap.mem_insert mem with rfl | mem
    · exact clampRelationship_inRange value
    · exact inRange entry mem

end InteractiveFiction
