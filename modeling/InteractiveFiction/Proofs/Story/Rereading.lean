import InteractiveFiction.Proofs.Effect.Rereading
import InteractiveFiction.Proofs.Story.Demands

/-!
Stories that are written and read again.

* `Story.Plain`: what every story is that was read (`Story.ofDocument_gives_plain`).
* `Story.delivers_rewritten`: a story that was read, of which each removal has an identity and each
  item to add is there, is read again, and written again as it was.
* `Story.rewritten_iff`: where the authored quantities of items are whole and not zero, only a
  removal without an identity keeps a story from being read again.
-/

set_option autoImplicit false

namespace InteractiveFiction

open Course

/-! ## Parts of records -/

theorem requireId_of_truthy {record : String} {d : Document} (h : (d.get "id").isTruthy = true) :
    requireId record d = .ok (d.get "id") := by
  unfold requireId
  rw [if_pos h]
  rfl

theorem keptCondition_kept (d : Document) : keptCondition (keptCondition d) = keptCondition d := by
  unfold keptCondition
  cases present : d.isTruthy with
  | true => simp [present]
  | false => simp

theorem listOf_of_list {d : Document} {key : String} {items : List Document}
    (found : d.field? key = some (.list items)) : listOf d key = .ok items := by
  unfold listOf
  rw [found]
  cases items <;> rfl

theorem fieldsUnder_of_object {d : Document} {key : String} {fields : Fields}
    (found : d.field? key = some (.object fields)) : fieldsUnder d key = .ok fields := by
  unfold fieldsUnder
  rw [found, Document.orElse_object]
  rfl

/-! ## Characters and achievements -/

theorem DialogueLine.ofDocument_toDocument (line : DialogueLine) :
    ofDocument line.toDocument = .ok line := by
  have responses : listOf line.toDocument "responses" = .ok line.responses := listOf_of_list rfl
  have requiredFlags : fieldsUnder line.toDocument "requiredFlags" = .ok line.requiredFlags :=
    fieldsUnder_of_object rfl
  unfold ofDocument
  rw [responses, requiredFlags]
  rfl

theorem Quest.ofDocument_toDocument {quest : Quest} (identified : quest.id.isTruthy = true) :
    ofDocument quest.toDocument = .ok quest := by
  have id : requireId "quest" quest.toDocument = .ok quest.id := requireId_of_truthy identified
  have prerequisites : listOf quest.toDocument "prerequisites" = .ok quest.prerequisites :=
    listOf_of_list rfl
  unfold ofDocument
  rw [id, prerequisites]
  rfl

theorem Quest.ofDocument_gives_plain (d : Document) :
    (ofDocument d).Gives fun quest => quest.id.isTruthy = true := by
  refine .bind (requireId_gives _ d) fun id present => .bind (.anything _) fun prerequisites _ => ?_
  exact .bind (.anything _) fun requiredRelationship _ => .pure present

namespace Character

structure Plain (character : Character) : Prop where
  id : character.id.isTruthy = true
  quests : ∀ quest ∈ character.quests, quest.id.isTruthy = true

theorem ofDocument_gives_plain (d : Document) : (ofDocument d).Gives Plain := by
  refine .bind (requireId_gives _ d) fun id present => .bind (.anything _) fun traits _ => ?_
  refine .bind (.anything _) fun preferences _ => .bind (.anything _) fun lines _ => ?_
  refine .bind (.anything _) fun dialogue _ => .bind (.anything _) fun tradeItems _ => ?_
  refine .bind (.anything _) fun items _ => ?_
  refine .bind (.mapM fun item _ => Quest.ofDocument_gives_plain item) fun quests own => ?_
  exact .pure ⟨present, own⟩

theorem ofDocument_toDocument {character : Character} (plain : character.Plain) :
    ofDocument character.toDocument = .ok character := by
  have id : requireId "character" character.toDocument = .ok character.id :=
    requireId_of_truthy plain.id
  have traits : listOf character.toDocument "traits" = .ok character.traits := listOf_of_list rfl
  have preferences : fieldsUnder character.toDocument "preferences" = .ok character.preferences :=
    fieldsUnder_of_object rfl
  have lines : listOf character.toDocument "dialogue" =
      .ok (character.dialogue.map DialogueLine.toDocument) := listOf_of_list rfl
  have dialogue : (character.dialogue.map DialogueLine.toDocument).mapM DialogueLine.ofDocument =
      .ok character.dialogue :=
    Result.mapM_map_of_ok fun line _ => line.ofDocument_toDocument
  have tradeItems : listOf character.toDocument "tradeItems" = .ok character.tradeItems :=
    listOf_of_list rfl
  have items : listOf character.toDocument "quests" =
      .ok (character.quests.map Quest.toDocument) := listOf_of_list rfl
  have quests : (character.quests.map Quest.toDocument).mapM Quest.ofDocument =
      .ok character.quests :=
    Result.mapM_map_of_ok fun quest mem => Quest.ofDocument_toDocument (plain.quests quest mem)
  unfold ofDocument
  rw [id, traits, preferences, Result.bind_of_ok rfl, Result.bind_of_ok rfl, Result.bind_of_ok rfl,
    Result.bind_of_ok lines, Result.bind_of_ok dialogue, Result.bind_of_ok tradeItems,
    Result.bind_of_ok items, Result.bind_of_ok quests]
  rfl

end Character

namespace Achievement

structure Plain (achievement : Achievement) : Prop where
  id : achievement.id.isTruthy = true
  conditions : keptCondition achievement.conditions = achievement.conditions

theorem ofDocument_gives_plain (d : Document) : (ofDocument d).Gives Plain := by
  refine .bind (requireId_gives _ d) fun id present => .bind (.anything _) fun points _ => ?_
  exact .pure ⟨present, keptCondition_kept _⟩

theorem ofDocument_toDocument {achievement : Achievement} (plain : achievement.Plain) :
    ofDocument achievement.toDocument = .ok achievement := by
  have id : requireId "achievement" achievement.toDocument = .ok achievement.id :=
    requireId_of_truthy plain.id
  have parts : ofDocument achievement.toDocument = (do
      let id ← requireId "achievement" achievement.toDocument
      pure { achievement with id, conditions := keptCondition achievement.conditions }) := rfl
  rw [parts, id, plain.conditions]
  rfl

end Achievement

/-! ## Choices -/

namespace Requirement

/-- A requirement as it is read again: an empty operator and an empty message are none. -/
def reread (requirement : Requirement) : Requirement :=
  { requirement with
    operator := if requirement.operator.isTruthy then requirement.operator else .null
    errorMessage := if requirement.errorMessage.isTruthy then requirement.errorMessage else "" }

/-- What a requirement is written as. -/
def slots (requirement : Requirement) : List (String × Option Document) := [
  ("type", some requirement.type), ("key", requirement.key.toOption),
  ("operator", if requirement.operator.isTruthy then some requirement.operator else none),
  ("value", requirement.value.toOption),
  ("errorMessage", if requirement.errorMessage.isTruthy then some requirement.errorMessage
    else none)]

theorem toDocument_eq (requirement : Requirement) :
    requirement.toDocument = .object (Fields.present requirement.slots) := by
  have filled (key : String) (present : Bool) (d : Document) :
      field key present d = Fields.slot key (if present then some d else none) := by
    cases present <;> rfl
  have told (d : Document) : (if d != .null then some d else none) = d.toOption := by
    cases d <;> rfl
  unfold toDocument
  simp only [filled, told, List.append_assoc]
  simp only [Fields.present, slots, List.flatMap_cons, List.flatMap_nil, List.append_nil]
  rfl

theorem field?_toDocument (requirement : Requirement) (key : String) :
    requirement.toDocument.field? key = (List.lookup key requirement.slots).join := by
  rw [toDocument_eq]
  refine Fields.lookup_present ?_ key
  have distinct : ["type", "key", "operator", "value", "errorMessage"].Nodup := by decide
  exact distinct

theorem toDocument_reread (requirement : Requirement) :
    requirement.reread.toDocument = requirement.toDocument := by
  rw [toDocument_eq, toDocument_eq]
  unfold slots reread
  have none : Document.null.isTruthy = false := rfl
  have empty : (Document.text "").isTruthy = false := rfl
  cases operator : requirement.operator.isTruthy <;>
    cases message : requirement.errorMessage.isTruthy <;> simp [operator, message, none, empty]

theorem ofDocument_gives_plain (d : Document) :
    (ofDocument d).Gives fun requirement => requirement.type.isTruthy = true := by
  unfold ofDocument
  split
  · dsimp only
    split
    · rename_i typed
      exact .pure typed
    · exact .throw _
  · exact .throw _

theorem ofDocument_toDocument {requirement : Requirement}
    (typed : requirement.type.isTruthy = true) :
    ofDocument requirement.toDocument = .ok requirement.reread := by
  have look := requirement.field?_toDocument
  have own (d : Document) : d.toOption.getD .null = d := by cases d <;> rfl
  have kept (d default : Document) :
      (if d.isTruthy then some d else none).getD default = if d.isTruthy then d else default := by
    split <;> rfl
  have type : requirement.toDocument.get "type" = requirement.type := by
    rw [Document.get, Document.getD, look]
    rfl
  have key : requirement.toDocument.get "key" = requirement.key := by
    rw [Document.get, Document.getD, look]
    exact own requirement.key
  have operator : requirement.toDocument.get "operator" = requirement.reread.operator := by
    rw [Document.get, Document.getD, look]
    exact kept requirement.operator .null
  have value : requirement.toDocument.get "value" = requirement.value := by
    rw [Document.get, Document.getD, look]
    exact own requirement.value
  have errorMessage : requirement.toDocument.getD "errorMessage"
      (requirement.toDocument.getD "error_message" "") = requirement.reread.errorMessage := by
    rw [Document.getD, Document.getD, look, look]
    exact kept requirement.errorMessage ""
  have parts : ofDocument requirement.toDocument =
      if (requirement.toDocument.get "type").isTruthy then pure {
        type := requirement.toDocument.get "type"
        key := requirement.toDocument.get "key"
        operator := requirement.toDocument.get "operator"
        value := requirement.toDocument.get "value"
        errorMessage := requirement.toDocument.getD "errorMessage"
          (requirement.toDocument.getD "error_message" "") }
      else throw (.content (.requirementWithoutType requirement.toDocument)) := rfl
  rw [parts, type, if_pos typed, key, operator, value, errorMessage]
  rfl

end Requirement

namespace Choice

open Issue

structure Plain (choice : Choice) : Prop where
  id : choice.id.isTruthy = true
  conditions : keptCondition choice.conditions = choice.conditions
  effects : choice.effects.Plain
  requirements : ∀ requirement ∈ choice.requirements, requirement.type.isTruthy = true

theorem ofDocument_gives_plain (d : Document) : Issue.Gives Plain (ofDocument d) := by
  refine .bind (Issue.gives_lift (requireId_gives _ d)) fun id present => ?_
  dsimp only
  cases ChoiceType.ofDocument? (d.getD "type" "plain") with
  | none => exact .of_throw _ _
  | some type =>
    refine .last fun type => .bind (Effect.ofDocument_gives_plain _) fun effects plain => ?_
    refine .last fun items => .bind (.mapM _ fun item _ =>
      Issue.gives_lift (Requirement.ofDocument_gives_plain item)) fun requirements typed => ?_
    exact .last fun metadata => .pure ⟨present, keptCondition_kept _, plain, typed⟩

/-- A choice as it is read again. -/
def reread (choice : Choice) : Choice :=
  { choice with
    effects := choice.effects.reread
    requirements := choice.requirements.map Requirement.reread }

theorem ofDocument?_name (type : ChoiceType) :
    ChoiceType.ofDocument? (.text type.name) = some type := by
  cases type <;> rfl

theorem delivers_reread {choice : Choice} (plain : choice.Plain)
    (identified : ∀ removal ∈ choice.effects.removeItems, removal.id ≠ "") :
    Delivers (· = choice.reread) (ofDocument choice.toDocument) := by
  have id : requireId "choice" choice.toDocument = .ok choice.id := requireId_of_truthy plain.id
  have type : ChoiceType.ofDocument? (choice.toDocument.getD "type" "plain") = some choice.type :=
    ofDocument?_name choice.type
  have effects := Effect.ofDocument_toDocument plain.effects identified
  have items : listOf choice.toDocument "requirements" =
      .ok (choice.requirements.map Requirement.toDocument) := listOf_of_list rfl
  have metadata : fieldsUnder choice.toDocument "metadata" = .ok choice.metadata :=
    fieldsUnder_of_object rfl
  refine .next (delivers_lift id) ?_
  dsimp only
  rw [type]
  refine .next (.pure rfl) <| .next effects <| .next (delivers_lift items) <| ?_
  refine .next (.mapM_map_eq fun requirement mem =>
    delivers_lift (Requirement.ofDocument_toDocument (plain.requirements requirement mem))) ?_
  refine .next (delivers_lift metadata) (.pure ?_)
  exact congrArg (fun conditions => { choice.reread with conditions }) plain.conditions

theorem delivers_rewritten {choice : Choice} (plain : choice.Plain)
    (identified : ∀ removal ∈ choice.effects.removeItems, removal.id ≠ "")
    (counted : ∀ item ∈ choice.effects.addItems, item.quantity ≠ 0) :
    Delivers (fun again => again.toDocument = choice.toDocument)
      (ofDocument choice.toDocument) := by
  have requirements : (choice.requirements.map Requirement.reread).map Requirement.toDocument =
      choice.requirements.map Requirement.toDocument := by
    rw [List.map_map]
    exact List.map_congr_left fun requirement _ => requirement.toDocument_reread
  refine (delivers_reread plain identified).weaken ?_
  rintro again rfl
  unfold toDocument reread
  dsimp only
  rw [Effect.toDocument_reread counted, requirements]

end Choice

/-! ## Scenes -/

namespace Scene

open Issue

/-- Of a scene that was read; the bundle that waits can be read of its metadata. -/
structure Plain (scene : Scene) : Prop where
  id : scene.id.isTruthy = true
  conditions : keptCondition scene.conditions = scene.conditions
  effects : scene.effects.Plain
  timeEffects : ∀ demand ∈ timeDemands (scene.metadata.getD "timeEffects" .null),
    demand.isMet = true

theorem ofDocument_gives_plain (d : Document) : Issue.Gives Plain (ofDocument d) := by
  refine .bind (gives_lift (requireId_gives _ d)) fun id present => .last fun metadata => ?_
  refine .bind (timeEffectsOf_decided id _).gives fun timeEffects met => ?_
  refine .bind (Effect.ofDocument_gives_plain _) fun effects plain => ?_
  exact .last fun choiceIds => .last fun characterIds =>
    .pure ⟨present, keptCondition_kept _, plain, met⟩

theorem idsOf_of_list {d : Document} {key otherKey : String} {ids : List Document}
    (found : d.field? key = some (.list ids)) : idsOf d key otherKey = .ok ids := by
  unfold idsOf Document.getD
  rw [found]
  cases ids <;> rfl

theorem delivers_rewritten {scene : Scene} (plain : scene.Plain)
    (identified : ∀ removal ∈ scene.effects.removeItems, removal.id ≠ "")
    (counted : ∀ item ∈ scene.effects.addItems, item.quantity ≠ 0) :
    Delivers (fun again => again.toDocument = scene.toDocument) (ofDocument scene.toDocument) := by
  have id : requireId "scene" scene.toDocument = .ok scene.id := requireId_of_truthy plain.id
  have metadata : fieldsUnder scene.toDocument "metadata" = .ok scene.metadata :=
    fieldsUnder_of_object rfl
  have effects := Effect.ofDocument_toDocument plain.effects identified
  have choiceIds : idsOf scene.toDocument "choiceIds" "choices" = .ok scene.choiceIds :=
    idsOf_of_list rfl
  have characterIds : idsOf scene.toDocument "characterIds" "characters" = .ok scene.characterIds :=
    idsOf_of_list rfl
  refine .next (delivers_lift id) <| .next (delivers_lift metadata) <| ?_
  refine .bind ((timeEffectsOf_decided scene.id _).delivers plain.timeEffects) fun _ _ => ?_
  refine .next effects <| .next (delivers_lift choiceIds) <| .next (delivers_lift characterIds) ?_
  refine .pure ?_
  unfold toDocument
  dsimp only
  rw [Effect.toDocument_reread counted]
  exact congrArg (fun conditions => toDocument { scene with conditions }) plain.conditions

end Scene

/-! ## Stories -/

namespace Story

open Issue

structure Plain (story : Story) : Prop where
  id : story.id.isTruthy = true
  startingSceneId : story.startingSceneId.isTruthy = true
  scenes : ∀ scene ∈ story.scenes, scene.Plain
  some_scene : story.scenes ≠ []
  distinct_scenes : checkDistinct "scene" (story.scenes.map Scene.id) = .ok ()
  choices : ∀ choice ∈ story.choices, choice.Plain
  distinct_choices : checkDistinct "choice" (story.choices.map Choice.id) = .ok ()
  characters : ∀ character ∈ story.characters, character.Plain
  distinct_characters : checkDistinct "character" (story.characters.map Character.id) = .ok ()
  achievements : ∀ achievement ∈ story.achievements, achievement.Plain

theorem ofDocument_gives_plain (d : Document) : Issue.Gives Plain (ofDocument d) := by
  have known (record : String) (ids : List Document) :
      Issue.Gives (fun _ => checkDistinct record ids = .ok ())
        (liftM (checkDistinct record ids) : Issue Unit) :=
    gives_lift fun _ read => read
  unfold ofDocument
  split
  · refine .bind (gives_lift (requireId_gives _ _)) fun id present => .last fun items => ?_
    refine .bind (.mapM _ fun item _ => Scene.ofDocument_gives_plain item) fun scenes plain => ?_
    split
    · rename_i first others
      refine .bind (known _ _) fun _ distinct => .last fun items => ?_
      refine .bind (.mapM _ fun item _ => Choice.ofDocument_gives_plain item) fun choices own => ?_
      refine .bind (known _ _) fun _ distinctChoices => .last fun items => ?_
      refine .bind (.mapM _ fun item _ => gives_lift (Character.ofDocument_gives_plain item))
        fun characters people => ?_
      refine .bind (known _ _) fun _ distinctCharacters => .last fun items => ?_
      refine .bind (.mapM _ fun item _ => gives_lift (Achievement.ofDocument_gives_plain item))
        fun achievements won => ?_
      exact .pure {
        id := present
        startingSceneId := Document.isTruthy_orElse _ (plain first (by simp)).id
        scenes := plain
        some_scene := nofun
        distinct_scenes := distinct
        choices := own
        distinct_choices := distinctChoices
        characters := people
        distinct_characters := distinctCharacters
        achievements := won }
    · exact .throw _
  · exact .throw _

/-- The bundles that scenes and choices apply at once. -/
def bundles (story : Story) : List Effect :=
  story.scenes.map Scene.effects ++ story.choices.map Choice.effects

/-- Records that are written alike have the same identities. -/
theorem ids_of_documents {α : Type} {write own : α → Document} {records others : List α}
    (told : ∀ record, (write record).get "id" = own record)
    (same : records.map write = others.map write) : records.map own = others.map own := by
  have ids := congrArg (List.map fun d => d.get "id") same
  rw [List.map_map, List.map_map] at ids
  have each : (fun d : Document => d.get "id") ∘ write = own := funext told
  rwa [each] at ids

theorem delivers_rewritten {story : Story} (plain : story.Plain)
    (identified : ∀ bundle ∈ story.bundles, ∀ removal ∈ bundle.removeItems, removal.id ≠ "")
    (counted : ∀ bundle ∈ story.bundles, ∀ item ∈ bundle.addItems, item.quantity ≠ 0) :
    Delivers (fun again => again.toDocument = story.toDocument) (ofDocument story.toDocument) := by
  have id : requireId "story" story.toDocument = .ok story.id := requireId_of_truthy plain.id
  have sceneItems : listOf story.toDocument "scenes" = .ok (story.scenes.map Scene.toDocument) :=
    listOf_of_list rfl
  have choiceItems : listOf story.toDocument "choices" =
      .ok (story.choices.map Choice.toDocument) := listOf_of_list rfl
  have characterItems : listOf story.toDocument "characters" =
      .ok (story.characters.map Character.toDocument) := listOf_of_list rfl
  have achievementItems : listOf story.toDocument "achievements" =
      .ok (story.achievements.map Achievement.toDocument) := listOf_of_list rfl
  have ofScene {scene : Scene} (mem : scene ∈ story.scenes) : scene.effects ∈ story.bundles :=
    List.mem_append_left _ (List.mem_map_of_mem mem)
  have ofChoice {choice : Choice} (mem : choice ∈ story.choices) :
      choice.effects ∈ story.bundles := List.mem_append_right _ (List.mem_map_of_mem mem)
  unfold ofDocument
  rw [toDocument]
  dsimp only
  rw [← toDocument]
  refine .next (delivers_lift id) <| .next (delivers_lift sceneItems) <| ?_
  refine .bind (.mapM_map fun scene mem => Scene.delivers_rewritten (plain.scenes scene mem)
    (identified _ (ofScene mem)) (counted _ (ofScene mem))) fun scenes sameScenes => ?_
  cases scenes with
  | nil => exact absurd (List.map_eq_nil_iff.1 sameScenes.symm) plain.some_scene
  | cons first others =>
    -- The scenes that are read need not be those of the story: an empty name of what is removed is
    -- read again as none.  They are written alike, so their identities are the same.
    have sceneIds := ids_of_documents (fun scene => (rfl : scene.toDocument.get "id" = scene.id))
      sameScenes
    dsimp only
    rw [sceneIds]
    refine .next (delivers_lift plain.distinct_scenes) <| .next (delivers_lift choiceItems) <| ?_
    refine .bind (.mapM_map fun choice mem => Choice.delivers_rewritten (plain.choices choice mem)
      (identified _ (ofChoice mem)) (counted _ (ofChoice mem))) fun choices sameChoices => ?_
    have choiceIds := ids_of_documents
      (fun choice => (rfl : choice.toDocument.get "id" = choice.id)) sameChoices
    rw [choiceIds]
    refine .next (delivers_lift plain.distinct_choices) <|
      .next (delivers_lift characterItems) <| ?_
    refine .next (.mapM_map_eq fun character mem =>
      delivers_lift (Character.ofDocument_toDocument (plain.characters character mem))) ?_
    rw [List.map_id']
    refine .next (delivers_lift plain.distinct_characters) <|
      .next (delivers_lift achievementItems) <| ?_
    refine .next (.mapM_map_eq fun achievement mem =>
      delivers_lift (Achievement.ofDocument_toDocument (plain.achievements achievement mem)))
      (.pure ?_)
    have starting : Document.orElse (story.toDocument.field? "startingSceneId") first.id =
        story.startingSceneId := Document.orElse_of_truthy plain.startingSceneId
    rw [starting, List.map_id']
    unfold toDocument
    dsimp only
    rw [sameScenes, sameChoices]
    rfl

theorem listUnder_of_list {d : Document} {key : String} {items : List Document}
    (found : d.field? key = some (.list items)) : (listUnder d key).parts = items := by
  unfold listUnder
  rw [found]
  cases items <;> rfl

/-- A story that is read again asks no scene and no choice to remove what has no identity. -/
theorem identified_of_reread {story again : Story} {issued : Nat}
    (read : result (ofDocument story.toDocument) issued = .ok again) :
    ∀ bundle ∈ story.bundles, ∀ removal ∈ bundle.removeItems, removal.id ≠ "" := by
  have met := (ofDocument_decided story.toDocument issued).ok_iff.1 ⟨again, read⟩
  have sceneItems : (listUnder story.toDocument "scenes").parts =
      story.scenes.map Scene.toDocument := listUnder_of_list rfl
  have choiceItems : (listUnder story.toDocument "choices").parts =
      story.choices.map Choice.toDocument := listUnder_of_list rfl
  have asked : ∀ bundle ∈ story.bundles, ∀ demand ∈ Effect.demands bundle.toDocument,
      demand ∈ demands story.toDocument := by
    intro bundle mem demand among
    unfold demands
    rcases List.mem_append.1 mem with mem | mem
    · obtain ⟨scene, own, rfl⟩ := List.mem_map.1 mem
      have ofScene : demand ∈ Scene.demands scene.toDocument := by
        unfold Scene.demands
        simp only [List.mem_cons, List.mem_append]
        exact .inr (.inr (.inr (.inl among)))
      have listed := Demand.mem_listing (sceneItems ▸ List.mem_map_of_mem own) ofScene
      simp only [List.mem_cons, List.mem_append, listed, true_or, or_true]
    · obtain ⟨choice, own, rfl⟩ := List.mem_map.1 mem
      have ofChoice : demand ∈ Choice.demands choice.toDocument := by
        unfold Choice.demands
        simp only [List.mem_cons, List.mem_append]
        exact .inr (.inr (.inl among))
      have listed := Demand.mem_listing (choiceItems ▸ List.mem_map_of_mem own) ofChoice
      simp only [List.mem_cons, List.mem_append, listed, true_or, or_true]
  intro bundle mem
  obtain ⟨effect, own⟩ := (Effect.ofDocument_decided bundle.toDocument 0).ok_iff.2
    fun demand among => met demand (asked bundle mem demand among)
  exact Effect.identified_of_read own

end Story

/-! ## Authored quantities -/

/-- A quantity that is left out, null, or a whole number other than zero. -/
def Item.IsCounted (d : Document) : Prop :=
  d.get "quantity" = .null ∨ ∃ n : Int, n ≠ 0 ∧ d.get "quantity" = .int n

theorem Item.ofDocument_gives_counted {fields : Fields} (h : IsCounted (.object fields)) :
    (ofDocument (.object fields)).Gives fun item => item.quantity ≠ 0 := by
  have read : ∃ n : Int, n ≠ 0 ∧ fields.getOr "quantity" (.int 1) = .int n := by
    unfold IsCounted Document.get Document.getD Document.field? at h
    unfold Fields.getOr
    dsimp only at h
    cases found : List.lookup "quantity" fields with
    | none => exact ⟨1, by decide, rfl⟩
    | some d =>
      rw [found] at h
      rcases h with none | ⟨n, some, own⟩
      · cases none
        exact ⟨1, by decide, rfl⟩
      · cases own
        refine ⟨n, some, Document.orElse_of_truthy ?_⟩
        simp [Document.isTruthy, Number.isZero_int, some]
  obtain ⟨n, some, quantity⟩ := read
  unfold ofDocument
  rw [Result.bind_of_ok (rfl : Document.fields (.object fields) "get" = .ok fields), quantity]
  dsimp only
  split
  · exact .of_throw _ _
  · refine .bind (.anything _) fun value _ => .pure some

namespace Effect

open Issue

/-- The items that a bundle adds, as they are written. -/
def itemsToAdd (d : Document) : List Document :=
  ((canonical d.ownFields).getOr "add_items" (.list [])).parts

theorem itemToAdd_gives_counted {d : Document} (h : Item.IsCounted d) :
    Issue.Gives (fun item => item.quantity ≠ 0) (itemToAdd d) := by
  unfold itemToAdd
  split
  · rename_i fields
    have identified (id : Document) : Item.IsCounted (.object (Fields.put fields "id" id)) := by
      unfold Item.IsCounted Document.get Document.getD Document.field? at h ⊢
      dsimp only at h ⊢
      rwa [Fields.lookup_put, if_neg (by decide)]
    refine .branch (gives_lift (Item.ofDocument_gives_counted h)) (.branch ?_ (.throw _))
    exact .last fun n => gives_lift (Item.ofDocument_gives_counted (identified _))
  · exact .throw _

theorem ofDocument_gives_counted {d : Document} (h : ∀ item ∈ itemsToAdd d, Item.IsCounted item) :
    Issue.Gives (fun effect => ∀ item ∈ effect.addItems, item.quantity ≠ 0) (ofDocument d) := by
  unfold ofDocument
  refine .branch (.pure nofun) ?_
  split
  · rename_i fields
    refine .branch ?_ (.throw _)
    refine .last fun health => .last fun mana => .last fun gold => .last fun experience => ?_
    refine .last fun attributes => .last fun flagFields => .last fun flags => ?_
    refine .bind (gives_lift fun items read => Document.toItems_of_ok read) fun items listed => ?_
    subst listed
    refine .bind (.mapM _ fun item mem => itemToAdd_gives_counted (h item mem)) ?_
    intro addItems counted
    refine .last fun removals => .last fun removeItems => .last fun relationships => ?_
    refine .last fun sound => .last fun music => .last fun customs => .last fun custom => ?_
    exact .last fun events => .pure counted
  · exact .throw _

end Effect

theorem Scene.ofDocument_gives_counted {d : Document}
    (h : ∀ item ∈ Effect.itemsToAdd (d.get "effects"), Item.IsCounted item) :
    Issue.Gives (fun scene => ∀ item ∈ scene.effects.addItems, item.quantity ≠ 0)
      (ofDocument d) := by
  refine .last fun id => .last fun metadata => .last fun timeEffects => ?_
  refine .bind (Effect.ofDocument_gives_counted h) fun effects counted => ?_
  exact .last fun choiceIds => .last fun characterIds => .pure counted

theorem Choice.ofDocument_gives_counted {d : Document}
    (h : ∀ item ∈ Effect.itemsToAdd (d.get "effects"), Item.IsCounted item) :
    Issue.Gives (fun choice => ∀ item ∈ choice.effects.addItems, item.quantity ≠ 0)
      (ofDocument d) := by
  refine .last fun id => ?_
  dsimp only
  cases ChoiceType.ofDocument? (d.getD "type" "plain") with
  | none => exact .of_throw _ _
  | some type =>
    refine .last fun type => .bind (Effect.ofDocument_gives_counted h) fun effects counted => ?_
    exact .last fun items => .last fun requirements => .last fun metadata => .pure counted

namespace Story

open Issue

/-- In the bundles of scenes and choices every quantity of an item to add is left out, null, or a
whole number other than zero. -/
def IsCounted (d : Document) : Prop :=
  ∀ record ∈ (listUnder d "scenes").parts ++ (listUnder d "choices").parts,
    ∀ item ∈ Effect.itemsToAdd (record.get "effects"), Item.IsCounted item

theorem ofDocument_gives_counted {d : Document} (h : IsCounted d) :
    Issue.Gives (fun story => ∀ bundle ∈ story.bundles, ∀ item ∈ bundle.addItems,
      item.quantity ≠ 0) (ofDocument d) := by
  have listed (key : String) : Issue.Gives (fun items => items = (listUnder d key).parts)
      (liftM (listOf d key) : Issue (List Document)) :=
    gives_lift fun _ read => Document.toItems_of_ok read
  unfold ofDocument
  split
  · refine .last fun id => .bind (listed "scenes") fun sceneItems isScenes => ?_
    subst isScenes
    refine .bind (.mapM _ fun item mem =>
      Scene.ofDocument_gives_counted (h item (List.mem_append_left _ mem))) fun scenes counted => ?_
    split
    · refine .last fun _ => .bind (listed "choices") fun choiceItems isChoices => ?_
      subst isChoices
      refine .bind (.mapM _ fun item mem =>
        Choice.ofDocument_gives_counted (h item (List.mem_append_right _ mem)))
        fun choices own => ?_
      refine .last fun _ => .last fun _ => .last fun characters => .last fun _ => .last fun _ => ?_
      refine .last fun achievements => .pure fun bundle mem => ?_
      rcases List.mem_append.1 mem with mem | mem
      · obtain ⟨scene, among, rfl⟩ := List.mem_map.1 mem
        exact counted scene among
      · obtain ⟨choice, among, rfl⟩ := List.mem_map.1 mem
        exact own choice among
    · exact .throw _
  · exact .throw _

/-- Where the authored quantities of items to add are left out or not zero, a story that was read is
read again and written as before exactly if none of its scenes and choices removes what has no
identity. -/
theorem rewritten_iff {d : Document} {story : Story} {issued : Nat}
    (read : result (ofDocument d) issued = .ok story) (counted : IsCounted d) (later : Nat) :
    (∃ again, result (ofDocument story.toDocument) later = .ok again ∧
        again.toDocument = story.toDocument) ↔
      ∀ bundle ∈ story.bundles, ∀ removal ∈ bundle.removeItems, removal.id ≠ "" := by
  have plain : story.Plain := (ofDocument_gives_plain d issued trivial).2 story read
  have quantities := (ofDocument_gives_counted counted issued trivial).2 story read
  constructor
  · rintro ⟨again, reread, -⟩
    exact identified_of_reread reread
  · intro identified
    obtain ⟨again, issued', ends, same⟩ := delivers_rewritten plain identified quantities later
    exact ⟨again, congrArg Prod.fst ends, same⟩

/-- A pier where two coins are found and something is lost. -/
def pierOf (removal : String) : Document :=
  .object [("id", "pier"), ("title", "Pier"), ("content", "You wait."),
    ("effects", .object [
      ("addItems", .list [.object [("id", "coin"), ("quantity", .int 2)]]),
      ("removeItems", .list [removal])])]

def ferryOf (removal : String) : Document :=
  .object [("id", "ferry"), ("title", "The ferry"), ("startingSceneId", "pier"),
    ("scenes", .list [pierOf removal])]

/-- The ferry as it is read. -/
def ferryRead (removal : String) : Story where
  id := "ferry"
  title := "The ferry"
  startingSceneId := "pier"
  scenes := [{
    id := "pier"
    title := "Pier"
    content := "You wait."
    effects := {
      addItems := [{ id := "coin", name := "coin", quantity := 2 }]
      removeItems := [{ id := removal }] } }]

theorem ferryOf_read (removal : String) :
    result (ofDocument (ferryOf removal)) 0 = .ok (ferryRead removal) := rfl

theorem isCounted_ferryOf (removal : String) : IsCounted (ferryOf removal) := by
  intro record mem item added
  obtain rfl : record = pierOf removal := List.mem_singleton.1 mem
  obtain rfl : item = .object [("id", "coin"), ("quantity", .int 2)] := List.mem_singleton.1 added
  exact .inr ⟨2, by decide, rfl⟩

theorem ferry_for_ticket_rewritten :
    result (ofDocument (ferryOf "ticket")) 0 = .ok (ferryRead "ticket") ∧
      IsCounted (ferryOf "ticket") ∧
      ∃ again, result (ofDocument (ferryRead "ticket").toDocument) 0 = .ok again ∧
        again.toDocument = (ferryRead "ticket").toDocument := by
  refine ⟨ferryOf_read _, isCounted_ferryOf _, ?_⟩
  refine (rewritten_iff (ferryOf_read "ticket") (isCounted_ferryOf "ticket") 0).2 ?_
  simp [bundles, ferryRead]

theorem ferry_for_nothing_not_rewritten :
    result (ofDocument (ferryOf "")) 0 = .ok (ferryRead "") ∧ IsCounted (ferryOf "") ∧
      ¬ ∃ again, result (ofDocument (ferryRead "").toDocument) 0 = .ok again := by
  refine ⟨ferryOf_read _, isCounted_ferryOf _, ?_⟩
  rintro ⟨again, reread⟩
  have refused : result (ofDocument (ferryRead "").toDocument) 0 =
      .error (.content (.removalWithoutId (.object [("id", ""), ("quantity", .int 1)]))) := rfl
  rw [refused] at reread
  cases reread

end Story

end InteractiveFiction
