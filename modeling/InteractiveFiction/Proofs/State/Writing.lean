import InteractiveFiction.Proofs.Number.Order
import InteractiveFiction.Proofs.State.WellFormed

/-!
Well-formed states read back from the documents they are written as.

* `GameState.Lasting`: experience is a whole number, what is worn and held is there at least once or
  owed, slots are named by texts and settings are of their kinds.
* `GameState.ofDocument_toDocument_iff`: the state that is read back is the one that was written
  exactly if it is lasting.
-/

set_option autoImplicit false

namespace InteractiveFiction

/-! ## Items -/

/-- An item as it is read back: none of it is one of it. -/
def Item.counted (item : Item) : Item :=
  { item with quantity := if item.quantity = 0 then 1 else item.quantity }

theorem Item.counted_eq_self_iff {item : Item} : item.counted = item ↔ item.quantity ≠ 0 := by
  constructor
  · intro same none
    have quantity := congrArg Item.quantity same
    rw [Item.counted, if_pos none, none] at quantity
    cases quantity
  · intro some
    rw [Item.counted, if_neg some]

theorem Item.quantity_counted_ne_zero (item : Item) : item.counted.quantity ≠ 0 := by
  unfold Item.counted
  dsimp only
  split
  · decide
  · assumption

/-- A whole number that is read back where zero counts as absent. -/
theorem Document.toInt_orElse_int (n default : Int) :
    (Document.orElse (some (.int n)) (.int default)).toInt = .ok (if n = 0 then default else n) := by
  have present : (Document.int n).isTruthy = !decide (n = 0) :=
    congrArg Bool.not (Number.isZero_int n)
  rw [orElse_some, present]
  by_cases none : n = 0
  · simp [none]
    rfl
  · simp [none]
    rfl

theorem Item.ofDocument_eq {fields : Fields} {item : Item}
    (id : fields.getOr "id" .null = .text item.id) (present : item.id ≠ "")
    (name : fields.getOr "name" (.text item.id) = item.name)
    (type : fields.getD "type" "misc" = item.type)
    (rarity : fields.getD "rarity" "common" = item.rarity)
    (value : (fields.getOr "value" (.int 0)).toInt = .ok item.value)
    (quantity : (fields.getOr "quantity" (.int 1)).toInt = .ok item.quantity)
    (stackable : (fields.getD "stackable" (.bool false)).isTruthy = item.stackable)
    (maxStack : (fields.getD "maxStack" (fields.getD "max_stack" .null)).toOption = item.maxStack)
    (description : fields.getD "description" "" = item.description)
    (properties : fields.getOr "properties" (.object []) = item.properties) :
    Item.ofDocument (.object fields) = .ok item := by
  have identified : (Document.text item.id).isTruthy = true := isTruthy_text_iff.2 present
  unfold Item.ofDocument
  rw [Result.bind_of_ok (rfl : Document.fields (.object fields) "get" = .ok fields)]
  simp only [id, identified, Bool.not_true, Bool.false_eq_true, if_false]
  rw [Result.bind_of_ok value, Result.bind_of_ok quantity, type, rarity, stackable, maxStack,
    description, properties]
  exact congrArg (fun name => Except.ok { item with name := name }) name

theorem Item.ofDocument_toDocument {item : Item} (h : item.WellFormed) :
    Item.ofDocument item.toDocument = .ok item.counted := by
  have id : Document.orElse (some (.text item.id)) .null = .text item.id :=
    Document.orElse_of_truthy (isTruthy_text_iff.2 h.id)
  have name : Document.orElse (some item.name) (.text item.id) = item.name :=
    Document.orElse_of_truthy h.name
  have value : (Document.orElse (some (.int item.value)) (.int 0)).toInt = .ok item.value := by
    rw [Document.toInt_orElse_int, ite_eq_right_iff.2 Eq.symm]
  have quantity := Document.toInt_orElse_int item.quantity 1
  refine Item.ofDocument_eq id h.id name rfl rfl value quantity rfl ?_ rfl h.properties
  have written := h.maxStack
  rw [Item.counted]
  dsimp only
  cases is : item.maxStack with
  | none => rfl
  | some limit =>
    rw [is] at written
    exact Document.toOption_of_ne_null fun null => written (congrArg some null)

/-! ## Equipment -/

namespace Equipment

theorem eq_of_entries {worn worn' : Equipment} (h : worn.entries = worn'.entries) :
    worn = worn' := by
  cases worn
  cases worn'
  cases h
  rfl

theorem entries_put_of_new {worn : Equipment} {slot : Document} (item : Item)
    (new : ¬ worn.isWorn slot = true) :
    (worn.put slot item).entries = worn.entries ++ [(slot, item)] := by
  unfold put
  rw [dif_neg new]

/-- The fields that equipment is written as. -/
def toFields (worn : Equipment) : Fields :=
  worn.entries.map fun (slot, item) => (slot.toKey, item.toDocument)

/-- Slots are named by texts, and in none of them is no item. -/
def Lasting (worn : Equipment) : Prop :=
  ∀ entry ∈ worn.entries, (∃ name, entry.1 = .text name) ∧ entry.2.quantity ≠ 0

theorem ofFields_toFields {worn : Equipment} (h : worn.WellFormed) (lasting : worn.Lasting) :
    ofFields worn.toFields = .ok worn := by
  refine Result.foldlM_rebuilds (fun _ => eq_of_entries) rfl ?_
  intro known ⟨slot, item⟩ rest all
  have mem : (slot, item) ∈ worn.entries := by
    rw [← all]
    simp
  obtain ⟨⟨name, isText⟩, counted⟩ := lasting _ mem
  dsimp only at isText counted
  subst isText
  have new : ¬ known.isWorn (.text name) = true := by
    have distinct := worn.distinct
    rw [← all, List.pairwise_append] at distinct
    intro among
    obtain ⟨old, was, equal⟩ := List.any_eq_true.1 among
    have different := distinct.2.2 old was (.text name, item) (by simp)
    rw [equal] at different
    cases different
  have read : Item.ofDocument item.toDocument = .ok item := by
    rw [Item.ofDocument_toDocument (h _ mem), Item.counted_eq_self_iff.2 counted]
  exact ⟨_, Result.bind_of_ok read _, entries_put_of_new item new⟩

theorem lasting_of_ofFields {worn read : Equipment} (h : worn.WellFormed)
    (reads : ofFields worn.toFields = .ok read) : read.Lasting := by
  refine Result.ok_of_foldlM (P := Lasting) ?_ ?_ reads
  · intro entry mem
    cases mem
  · intro known lasting field written next step entry mem
    obtain ⟨⟨slot, item⟩, was, rfl⟩ := List.mem_map.1 written
    have own := Item.ofDocument_toDocument (h _ was)
    dsimp only at step own
    rw [Result.bind_of_ok own] at step
    cases step
    rcases mem_put mem with rfl | ⟨old, old_mem, slot_eq, new | same⟩
    · exact ⟨⟨_, rfl⟩, Item.quantity_counted_ne_zero item⟩
    · rw [slot_eq, new]
      exact ⟨(lasting old old_mem).1, Item.quantity_counted_ne_zero item⟩
    · rw [slot_eq, same]
      exact lasting old old_mem

end Equipment

/-! ## Players -/

theorem Player.attributesOf_toDocument (attributes : OrderedMap Int) :
    Player.attributesOf (attributes.entries.map fun (name, value) => (name, .int value)) =
      .ok attributes :=
  OrderedMap.foldlM_insert fun _ _ _ => rfl

structure Player.Lasting (player : Player) : Prop where
  experience : ∃ n, player.experience = .int n
  equipment : player.equipment.Lasting

theorem Player.ofDocument_toDocument_iff {player : Player} (h : player.equipment.WellFormed) :
    Player.ofDocument player.toDocument = .ok player ↔ player.Lasting := by
  have object : (Document.orElse (some player.equipment.toDocument) (.object [])).fields "items" =
      .ok player.equipment.toFields :=
    congrArg (fun d => Document.fields d "items") (Document.orElse_object player.equipment.toFields)
  constructor
  · intro read
    obtain ⟨fields, worn, isObject, wornObject, equipment, whole⟩ := Player.parts_of_ofDocument read
    cases isObject
    have same : worn = player.equipment.toFields := Except.ok.inj (wornObject.symm.trans object)
    rw [same] at equipment
    exact ⟨whole, Equipment.lasting_of_ofFields h equipment⟩
  · rintro ⟨⟨n, whole⟩, lasting⟩
    have attributes : attributesIn (some (attributesDocument player.attributes)) =
        .ok player.attributes := attributesOf_toDocument player.attributes
    have parts : Player.ofDocument player.toDocument = (do
        let attributes ← attributesIn (some (attributesDocument player.attributes))
        let worn ← (Document.orElse (some player.equipment.toDocument) (.object [])).fields "items"
        let equipment ← Equipment.ofFields worn
        pure { player with attributes, equipment }) := by
      obtain ⟨name, level, health, maxHealth, mana, maxMana, experience⟩ := player
      cases whole
      rfl
    rw [parts, Result.bind_of_ok attributes, Result.bind_of_ok object,
      Result.bind_of_ok (Equipment.ofFields_toFields h lasting)]
    rfl

/-! ## The other parts -/

theorem FlagValue.ofDocument?_toDocument (value : FlagValue) :
    ofDocument? value.toDocument = some value := by
  cases value <;> rfl

theorem Flags.ofFields_toFields {flags : Flags} (named : flags.Named) :
    Flags.ofFields flags.toFields = .ok flags := by
  refine OrderedMap.foldlM_insert fun entry mem known => ?_
  have filled : ¬ entry.1.isEmpty = true := by simpa using named entry mem
  have checked : FlagValue.check (.text entry.1) entry.2.toDocument = .ok entry := by
    unfold FlagValue.check
    dsimp only
    rw [if_neg filled, FlagValue.ofDocument?_toDocument]
    rfl
  exact Result.bind_of_ok checked _

theorem TimedEffect.ofDocument_toDocument {effect : TimedEffect} (h : effect.WellFormed) :
    TimedEffect.ofDocument effect.toDocument = .ok effect := by
  have parts : TimedEffect.ofDocument effect.toDocument = .ok { effect with
      effects := Document.orElse (some effect.effects) (.object []) } := rfl
  rw [parts, h]

theorem ChoiceRecord.ofDocument_toDocument (now : Instant) {record : ChoiceRecord}
    (dated : record.timestamp.isTruthy = true) :
    ChoiceRecord.ofDocument now record.toDocument = .ok record := by
  have parts : ChoiceRecord.ofDocument now record.toDocument = .ok { record with
      timestamp := Document.orElse (some record.timestamp) (.text (Timestamp.text now)) } := rfl
  rw [parts, Document.orElse_of_truthy dated]

/-- Of the progress that was written, only the choices are read again one by one. -/
theorem Progress.ofDocument_toDocument_eq (now : Instant) (progress : Progress) :
    Progress.ofDocument now progress.toDocument = (do
      let choicesMade ← (progress.choicesMade.map ChoiceRecord.toDocument).mapM
        (ChoiceRecord.ofDocument now)
      pure { progress with choicesMade }) := rfl

theorem Progress.ofDocument_toDocument (now : Instant) {progress : Progress}
    (dated : ∀ record ∈ progress.choicesMade, record.timestamp.isTruthy = true) :
    Progress.ofDocument now progress.toDocument = .ok progress := by
  have choices : (progress.choicesMade.map ChoiceRecord.toDocument).mapM
      (ChoiceRecord.ofDocument now) = .ok progress.choicesMade :=
    Result.mapM_map_of_ok fun record mem => ChoiceRecord.ofDocument_toDocument now (dated record mem)
  rw [Progress.ofDocument_toDocument_eq, Result.bind_of_ok choices]
  rfl

/-- Settings of their kinds: what is on or off, and how often games are saved. -/
structure Settings.Plain (settings : Settings) : Prop where
  autosave : ∃ b, settings.autosave = .bool b
  autosaveInterval : ∃ x, settings.autosaveInterval = .float x
  soundEnabled : ∃ b, settings.soundEnabled = .bool b
  musicEnabled : ∃ b, settings.musicEnabled = .bool b

theorem Settings.plain_of_ofDocument {d : Document} {settings : Settings}
    (read : Settings.ofDocument d = .ok settings) : settings.Plain := by
  obtain ⟨fields, -, read⟩ := Result.ok_of_bind read
  obtain ⟨interval, -, read⟩ := Result.ok_of_bind read
  cases read
  exact ⟨⟨_, rfl⟩, ⟨_, rfl⟩, ⟨_, rfl⟩, ⟨_, rfl⟩⟩

theorem Settings.ofDocument_toDocument {settings : Settings} (plain : settings.Plain) :
    Settings.ofDocument settings.toDocument = .ok settings := by
  obtain ⟨⟨_, autosave⟩, ⟨_, interval⟩, ⟨_, sound⟩, ⟨_, music⟩⟩ := plain
  cases settings
  cases autosave
  cases interval
  cases sound
  cases music
  rfl

theorem StateMetadata.ofDocument_toDocument (now : Instant) {metadata : StateMetadata}
    (created : metadata.createdAt.isTruthy = true)
    (modified : metadata.lastModified.isTruthy = true) :
    StateMetadata.ofDocument now metadata.toDocument = .ok metadata := by
  have parts : StateMetadata.ofDocument now metadata.toDocument = .ok { metadata with
      createdAt := Document.orElse (some metadata.createdAt) (.text (Timestamp.text now))
      lastModified := Document.orElse (some metadata.lastModified) (.text (Timestamp.text now)) } :=
    rfl
  rw [parts, Document.orElse_of_truthy created, Document.orElse_of_truthy modified]

/-! ## States -/

namespace GameState

structure Lasting (state : GameState) : Prop where
  player : state.player.Lasting
  held : ∀ item ∈ state.inventory, item.quantity ≠ 0
  settings : state.settings.Plain

/-- What is read back of a state is the state itself exactly if it is lasting. -/
theorem ofDocument_toDocument_iff {state : GameState} (h : state.WellFormed) (now : Instant) :
    ofDocument now state.toDocument = .ok state ↔ state.Lasting := by
  constructor
  · intro read
    obtain ⟨fields, isObject, parts⟩ := ReadFrom.of_ofDocument read
    cases isObject
    refine ⟨(Player.ofDocument_toDocument_iff h.worn).1 parts.player, ?_,
      Settings.plain_of_ofDocument parts.settings⟩
    obtain ⟨items, isList, things⟩ := parts.inventory
    cases isList
    intro item mem
    obtain ⟨d, written, own⟩ := Result.ok_of_mapM things item mem
    obtain ⟨old, was, rfl⟩ := List.mem_map.1 written
    rw [Item.ofDocument_toDocument (h.held old was)] at own
    cases own
    exact Item.quantity_counted_ne_zero old
  · intro lasting
    apply ReadFrom.ofDocument_eq
    exact {
      required := by
        intro key mem
        have one : key = "id" ∨ key = "storyId" ∨ key = "currentSceneId" ∨ key = "player" := by
          simpa [requiredFields] using mem
        rcases one with rfl | rfl | rfl | rfl
        · exact h.id
        · exact h.storyId
        · exact h.currentSceneId
        · rfl
      id := rfl
      storyId := rfl
      currentSceneId := rfl
      player := (Player.ofDocument_toDocument_iff h.worn).2 lasting.player
      inventory := by
        refine ⟨_, rfl, Result.mapM_map_of_ok fun item mem => ?_⟩
        rw [Item.ofDocument_toDocument (h.held item mem),
          Item.counted_eq_self_iff.2 (lasting.held item mem)]
      flags := ⟨_, congrArg (fun d => Document.fields d "items") (Document.orElse_object _),
        Flags.ofFields_toFields h.flags⟩
      relationships := by
        refine ⟨_, congrArg (fun d => Document.fields d "items") (Document.orElse_object _),
          OrderedMap.foldlM_insert fun entry mem known => ?_⟩
        have inRange : clampRelationship entry.2 = entry.2 :=
          clampRelationship_of_inRange (h.relationships entry mem)
        exact congrArg (fun value => Except.ok (known.insert entry.1 value)) inRange
      progress := Progress.ofDocument_toDocument now h.choices
      settings := Settings.ofDocument_toDocument lasting.settings
      timedEffects := by
        refine ⟨_, congrArg (fun d => Document.fields d "items") (Document.orElse_object _),
          OrderedMap.foldlM_insert fun entry mem known => ?_⟩
        have read := TimedEffect.ofDocument_toDocument (h.timedEffects entry mem)
        exact Result.bind_of_ok read _
      metadata := StateMetadata.ofDocument_toDocument now h.createdAt h.lastModified }

end GameState

end InteractiveFiction
