import InteractiveFiction.Proofs.State.Reading
import InteractiveFiction.Proofs.Text

/-!
Well-formed states: no identity is empty, no flag lacks a name, no relationship is out of its range,
and where readers put a default for what is absent, nothing absent stands.

Fresh states are well-formed, and so is every state that was read from a document.
-/

set_option autoImplicit false

namespace InteractiveFiction

/-! ## Defaults -/

namespace Document

variable {d default : Document}

theorem orElse_some (d default : Document) :
    orElse (some d) default = if d.isTruthy then d else default := rfl

theorem orElse_of_truthy (h : d.isTruthy = true) : orElse (some d) default = d :=
  if_pos h

theorem orElse_self (d : Document) : orElse (some d) d = d := by
  rw [orElse_some, ite_self]

theorem orElse_object (fields : Fields) :
    orElse (some (.object fields)) (.object []) = .object fields := by
  cases fields <;> rfl

/-- A default is put once. -/
theorem orElse_orElse (d : Option Document) (default : Document) :
    orElse (some (orElse d default)) default = orElse d default := by
  cases d with
  | none => exact orElse_self default
  | some d =>
    by_cases present : d.isTruthy = true
    · rw [orElse_of_truthy present, orElse_of_truthy present]
    · rw [orElse_some d, if_neg present]
      exact orElse_self default

theorem isTruthy_orElse (d : Option Document) (h : default.isTruthy = true) :
    (orElse d default).isTruthy = true := by
  cases d with
  | none => exact h
  | some d =>
    rw [orElse_some]
    split
    · assumption
    · exact h

theorem toOption_of_ne_null (h : d ≠ .null) : d.toOption = some d := by
  cases d with
  | null => exact absurd rfl h
  | _ => rfl

theorem toOption_ne_null (d : Document) : d.toOption ≠ some .null := by
  cases d <;> simp [toOption]

end Document

theorem Timestamp.isTruthy_text (now : Instant) :
    (Document.text (Timestamp.text now)).isTruthy = true :=
  isTruthy_text_iff.2 (Timestamp.text_ne_empty now)

/-! ## Parts of a state -/

structure Item.WellFormed (item : Item) : Prop where
  id : item.id ≠ ""
  name : item.name.isTruthy = true
  maxStack : item.maxStack ≠ some .null
  properties : Document.orElse (some item.properties) (.object []) = item.properties

theorem Item.WellFormed.withQuantity {item : Item} (h : item.WellFormed) (quantity : Int) :
    { item with quantity := quantity }.WellFormed :=
  { h with }

def Equipment.WellFormed (worn : Equipment) : Prop :=
  ∀ entry ∈ worn.entries, entry.2.WellFormed

def Flags.Named (flags : Flags) : Prop :=
  ∀ entry ∈ flags.entries, entry.1 ≠ ""

def TimedEffect.WellFormed (effect : TimedEffect) : Prop :=
  Document.orElse (some effect.effects) (.object []) = effect.effects

structure GameState.WellFormed (state : GameState) : Prop where
  id : state.id.isTruthy = true
  storyId : state.storyId.isTruthy = true
  currentSceneId : state.currentSceneId.isTruthy = true
  worn : state.player.equipment.WellFormed
  held : ∀ item ∈ state.inventory, item.WellFormed
  flags : state.flags.Named
  relationships : state.RelationshipsInRange
  choices : ∀ record ∈ state.progress.choicesMade, record.timestamp.isTruthy = true
  timedEffects : ∀ entry ∈ state.timedEffects.entries, entry.2.WellFormed
  createdAt : state.metadata.createdAt.isTruthy = true
  lastModified : state.metadata.lastModified.isTruthy = true

/-! ## Growing -/

namespace Equipment

theorem mem_put {worn : Equipment} {slot : Document} {item : Item} {entry : Document × Item}
    (mem : entry ∈ (worn.put slot item).entries) :
    entry = (slot, item) ∨ ∃ old ∈ worn.entries, entry.1 = old.1 ∧
      (entry.2 = item ∨ entry.2 = old.2) := by
  unfold put at mem
  split at mem
  · obtain ⟨old, was, rfl⟩ := List.mem_map.1 mem
    refine .inr ⟨old, was, replace_fst slot item old, ?_⟩
    unfold replace
    split
    · exact .inl rfl
    · exact .inr rfl
  · rcases List.mem_append.1 mem with mem | mem
    · exact .inr ⟨entry, mem, rfl, .inr rfl⟩
    · exact .inl (List.mem_singleton.1 mem)

theorem WellFormed.put {worn : Equipment} (h : worn.WellFormed) (slot : Document) {item : Item}
    (own : item.WellFormed) : (worn.put slot item).WellFormed := by
  intro entry mem
  rcases mem_put mem with rfl | ⟨old, was, -, new | same⟩
  · exact own
  · rw [new]
    exact own
  · rw [same]
    exact h old was

theorem WellFormed.of_item? {worn : Equipment} (h : worn.WellFormed) {slot : Document} {item : Item}
    (wears : worn.item? slot = some item) : item.WellFormed := by
  obtain ⟨entry, found, rfl⟩ := Option.map_eq_some_iff.1 wears
  exact h entry (List.mem_of_find?_eq_some found)

end Equipment

namespace Flags

theorem Named.insert {flags : Flags} (h : flags.Named) {name : String} (own : name ≠ "")
    (value : FlagValue) : Named (flags.insert name value) := by
  intro entry mem
  rcases OrderedMap.mem_insert mem with rfl | was
  · exact own
  · exact h entry was

theorem named_of_set {flags flags' : Flags} {key value : Document} (h : flags.Named)
    (set : flags.set key value = .ok flags') : flags'.Named := by
  obtain ⟨⟨name, flag⟩, checked, inserted⟩ := Result.ok_of_bind set
  cases inserted
  refine h.insert ?_ flag
  rintro rfl
  unfold FlagValue.check at checked
  cases key with
  | text own =>
    dsimp only at checked
    split at checked
    · cases checked
    · rename_i filled
      split at checked
      · cases checked
        exact filled rfl
      · cases checked
  | _ => cases checked

theorem named_of_ofFields {fields : Fields} {flags : Flags} (read : ofFields fields = .ok flags) :
    flags.Named := by
  refine Result.ok_of_foldlM (P := Named) ?_ ?_ read
  · intro entry mem
    cases mem
  · intro known named item _ next step
    exact named_of_set named step

end Flags

/-! ## Reading -/

theorem Item.wellFormed_of_ofDocument {d : Document} {item : Item}
    (read : Item.ofDocument d = .ok item) : item.WellFormed := by
  obtain ⟨fields, -, read⟩ := Result.ok_of_bind read
  dsimp only at read
  split at read
  · cases read
  · rename_i present
    have identified : (fields.getOr "id" .null).isTruthy = true := by simpa using present
    have id := Document.display_ne_empty identified
    obtain ⟨value, -, read⟩ := Result.ok_of_bind read
    obtain ⟨quantity, -, read⟩ := Result.ok_of_bind read
    cases read
    exact {
      id := id
      name := Document.isTruthy_orElse _ (isTruthy_text_iff.2 id)
      maxStack := Document.toOption_ne_null _
      properties := Document.orElse_orElse _ _ }

theorem Equipment.wellFormed_of_ofFields {fields : Fields} {worn : Equipment}
    (read : Equipment.ofFields fields = .ok worn) : worn.WellFormed := by
  refine Result.ok_of_foldlM (P := Equipment.WellFormed) ?_ ?_ read
  · intro entry mem
    cases mem
  · intro known wellFormed entry _ next step
    obtain ⟨item, readItem, put⟩ := Result.ok_of_bind step
    cases put
    exact wellFormed.put _ (Item.wellFormed_of_ofDocument readItem)

theorem TimedEffect.wellFormed_of_ofDocument {d : Document} {effect : TimedEffect}
    (read : TimedEffect.ofDocument d = .ok effect) : effect.WellFormed := by
  obtain ⟨kind, -, read⟩ := Result.ok_of_bind read
  obtain ⟨type, -, read⟩ := Result.ok_of_bind read
  obtain ⟨_, -, read⟩ := Result.ok_of_bind read
  obtain ⟨startTime, -, read⟩ := Result.ok_of_bind read
  obtain ⟨_, -, read⟩ := Result.ok_of_bind read
  obtain ⟨duration, -, read⟩ := Result.ok_of_bind read
  obtain ⟨fields, -, read⟩ := Result.ok_of_bind read
  cases read
  exact Document.orElse_orElse _ _

theorem ChoiceRecord.timestamp_of_ofDocument {now : Instant} {d : Document} {record : ChoiceRecord}
    (read : ChoiceRecord.ofDocument now d = .ok record) : record.timestamp.isTruthy = true := by
  obtain ⟨choice, -, read⟩ := Result.ok_of_bind read
  obtain ⟨fields, -, read⟩ := Result.ok_of_bind read
  cases read
  exact Document.isTruthy_orElse _ (Timestamp.isTruthy_text now)

theorem Player.wellFormed_of_ofDocument {d : Document} {player : Player}
    (read : Player.ofDocument d = .ok player) : player.equipment.WellFormed := by
  obtain ⟨_, _, -, -, equipment, -⟩ := Player.parts_of_ofDocument read
  exact Equipment.wellFormed_of_ofFields equipment

theorem Progress.timestamps_of_ofDocument {now : Instant} {d : Document} {progress : Progress}
    (read : Progress.ofDocument now d = .ok progress) :
    ∀ record ∈ progress.choicesMade, record.timestamp.isTruthy = true := by
  obtain ⟨fields, -, read⟩ := Result.ok_of_bind read
  obtain ⟨scenes, -, read⟩ := Result.ok_of_bind read
  obtain ⟨records, -, read⟩ := Result.ok_of_bind read
  obtain ⟨choices, readChoices, read⟩ := Result.ok_of_bind read
  obtain ⟨achievements, -, read⟩ := Result.ok_of_bind read
  obtain ⟨playtime, -, read⟩ := Result.ok_of_bind read
  obtain ⟨storyProgress, -, read⟩ := Result.ok_of_bind read
  cases read
  intro record mem
  obtain ⟨d, -, own⟩ := Result.ok_of_mapM readChoices record mem
  exact ChoiceRecord.timestamp_of_ofDocument own

theorem StateMetadata.dated_of_ofDocument {now : Instant} {d : Document} {metadata : StateMetadata}
    (read : StateMetadata.ofDocument now d = .ok metadata) :
    metadata.createdAt.isTruthy = true ∧ metadata.lastModified.isTruthy = true := by
  obtain ⟨fields, -, read⟩ := Result.ok_of_bind read
  cases read
  have dated := Timestamp.isTruthy_text now
  exact ⟨Document.isTruthy_orElse _ dated, Document.isTruthy_orElse _ dated⟩

namespace GameState

theorem wellFormed_of_ofDocument {now : Instant} {d : Document} {state : GameState}
    (read : ofDocument now d = .ok state) : state.WellFormed := by
  have inRange := relationshipsInRange_of_ofDocument read
  obtain ⟨fields, -, parts⟩ := ReadFrom.of_ofDocument read
  obtain ⟨_, -, inventory⟩ := parts.inventory
  obtain ⟨_, -, flags⟩ := parts.flags
  obtain ⟨_, -, timedEffects⟩ := parts.timedEffects
  have dated := StateMetadata.dated_of_ofDocument parts.metadata
  exact {
    id := by rw [parts.id]; exact parts.required "id" (by decide)
    storyId := by rw [parts.storyId]; exact parts.required "storyId" (by decide)
    currentSceneId := by
      rw [parts.currentSceneId]
      exact parts.required "currentSceneId" (by decide)
    worn := Player.wellFormed_of_ofDocument parts.player
    held := by
      intro item mem
      obtain ⟨d, -, own⟩ := Result.ok_of_mapM inventory item mem
      exact Item.wellFormed_of_ofDocument own
    flags := Flags.named_of_ofFields flags
    relationships := inRange
    choices := Progress.timestamps_of_ofDocument parts.progress
    timedEffects := by
      refine Result.ok_of_foldlM (P := fun known : OrderedMap TimedEffect =>
        ∀ entry ∈ known.entries, entry.2.WellFormed) ?_ ?_ timedEffects
      · intro entry mem
        cases mem
      · intro known wellFormed field _ next step entry mem
        obtain ⟨effect, own, inserted⟩ := Result.ok_of_bind step
        cases inserted
        rcases OrderedMap.mem_insert mem with rfl | was
        · exact TimedEffect.wellFormed_of_ofDocument own
        · exact wellFormed entry was
    createdAt := dated.1
    lastModified := dated.2 }

theorem wellFormed_starting (now : Instant) {id story scene : Document} (player : Document)
    (settings : Settings) (identified : id.isTruthy = true) (ofStory : story.isTruthy = true)
    (atScene : scene.isTruthy = true) :
    (starting now id story scene player settings).WellFormed where
  id := identified
  storyId := ofStory
  currentSceneId := atScene
  worn := by intro entry mem; cases mem
  held := by intro item mem; cases mem
  flags := by intro entry mem; cases mem
  relationships := relationshipsInRange_starting now id story scene player settings
  choices := by intro record mem; cases mem
  timedEffects := by intro entry mem; cases mem
  createdAt := Timestamp.isTruthy_text now
  lastModified := Timestamp.isTruthy_text now

end GameState

end InteractiveFiction
