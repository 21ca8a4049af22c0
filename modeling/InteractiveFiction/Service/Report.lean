import InteractiveFiction.Session

/-!
Reports: what the service answers, as documents, and the errors it answers with.
-/

set_option autoImplicit false

namespace InteractiveFiction

/-! ## Errors -/

inductive ErrorCode where
  | sessionNotFound | storyNotFound | choiceUnavailable | sceneNotFound | sceneInaccessible
  | invalidState | persistenceError | validationError | internalError
deriving DecidableEq, Repr

namespace ErrorCode

def label : ErrorCode → String
  | .sessionNotFound => "SESSION_NOT_FOUND"
  | .storyNotFound => "STORY_NOT_FOUND"
  | .choiceUnavailable => "CHOICE_UNAVAILABLE"
  | .sceneNotFound => "SCENE_NOT_FOUND"
  | .sceneInaccessible => "SCENE_INACCESSIBLE"
  | .invalidState => "INVALID_STATE"
  | .persistenceError => "PERSISTENCE_ERROR"
  | .validationError => "VALIDATION_ERROR"
  | .internalError => "INTERNAL_ERROR"

def ofFault : Fault → ErrorCode
  | .choiceUnavailable .. => .choiceUnavailable
  | .sceneNotFound _ => .sceneNotFound
  | .sceneInaccessible _ => .sceneInaccessible
  | .lifecycle _ => .invalidState
  | .saving _ => .persistenceError
  | fault => if fault.isOfContent then .validationError else .internalError

end ErrorCode

structure ServiceError where
  code : ErrorCode
  message : String
  details : Document := .null
deriving DecidableEq

def apiVersion : String × Document := ("api_version", "v1")

namespace ServiceError

def toDocument (error : ServiceError) : Document :=
  .object [("error", .text error.message), ("error_code", .text error.code.label),
    ("details", error.details), apiVersion]

def ofFault (fault : Fault) : ServiceError :=
  { code := .ofFault fault
    message := fault.message
    details :=
      match fault with
      | .choiceUnavailable choice reason =>
        .object [("choice_id", choice), ("reason", .text reason)]
      | _ => .null }

def sessionNotFound (id : String) : ServiceError :=
  { code := .sessionNotFound, message := s!"Session not found: {id}" }

def storyNotFound (id : String) : ServiceError :=
  { code := .storyNotFound, message := s!"Story not found: {id}" }

def noGame : ServiceError :=
  { code := .invalidState, message := "No game in progress" }

end ServiceError

/-! ## Parts of reports -/

namespace Report

def status (session : Session) : String × Document :=
  ("status", .text session.engine.status.label)

def sessionId (session : Session) : String × Document :=
  ("session_id", .text session.id)

def choice (presented : PresentedChoice) : Document :=
  .object [("id", presented.choice.id), ("text", .text presented.text),
    ("type", .text presented.choice.type.name), ("target_scene_id", presented.choice.target),
    ("requirements", .list (presented.choice.requirements.map Requirement.describe))]

def sceneInfo (presented : PresentedScene) : Document :=
  .object [("scene_id", presented.scene.id), ("title", presented.scene.title),
    ("content", .text presented.content), ("choices", .list (presented.choices.map choice)),
    ("background_music", presented.scene.backgroundMusic),
    ("character_ids", .list presented.scene.characterIds)]

def optionalScene (presented : Option PresentedScene) : Document :=
  Document.ofOption (presented.map sceneInfo)

/-- A number, written as an integer where it is one. -/
def plainNumber (n : Number) : Document :=
  match n.truncate? with
  | some whole => if (Number.int whole).equals n then .int whole else .number n
  | none => .number n

def player (player : Player) : Document :=
  .object [("name", player.name), ("level", .int player.level), ("health", .int player.health),
    ("max_health", .int player.maxHealth), ("mana", .int player.mana),
    ("max_mana", .int player.maxMana), ("experience", plainNumber player.experience),
    ("gold", .int player.gold), ("attributes", Player.attributesDocument player.attributes),
    ("equipment",
      .object (player.equipment.entries.map fun (slot, item) => (slot.toKey, .text item.id)))]

def item (item : Item) : Document :=
  .object [("id", .text item.id), ("name", item.name), ("type", item.type),
    ("rarity", item.rarity), ("quantity", .int item.quantity), ("value", .int item.value),
    ("description", item.description)]

def effect (outcome : Outcome) : Document :=
  .object [("type", .text outcome.type), ("success", .bool outcome.success),
    ("description", .text outcome.description), ("change", outcome.change),
    ("error", Document.ofOption (outcome.error.map Document.text))]

def slot (slot : SaveSlot) : Document :=
  .object [("id", slot.id), ("name", slot.name), ("story_id", slot.storyId),
    ("scene_id", slot.sceneId), ("player_level", .int slot.playerLevel),
    ("playtime", .int slot.playtime), ("story_progress", .int slot.storyProgress),
    ("is_autosave", .bool slot.isAutosave), ("saved_at", slot.savedAt)]

def event (record : EventRecord) : Document :=
  .object [("name", .text record.event.name), ("payload", .object record.event.payload),
    ("timestamp", .float record.timestamp)]

def story (story : Story) : Document :=
  .object [("story_id", story.id), ("title", story.title), ("description", story.description),
    ("scene_count", .int story.scenes.length),
    ("achievement_count", .int story.achievements.length)]

/-! ## Reports -/

def session (session : Session) : Document :=
  .object [sessionId session, status session, ("player_name", session.playerName),
    ("story_id", Document.ofOption (session.engine.state.map GameState.storyId)),
    ("created_at", .float session.createdAt), apiVersion]

def scene (session : Session) (presented : PresentedScene) : Document :=
  .object [sessionId session, status session, ("scene", sceneInfo presented), apiVersion]

def outcome (session : Session) (choice : String) (outcome : ChoiceOutcome) : Document :=
  .object [sessionId session, ("choice_id", .text choice), status session,
    ("effects", .list (outcome.effects.map effect)),
    ("consequences",
      .list (outcome.choice.consequences.map fun c => .text c.description)),
    ("scene", optionalScene outcome.scene), ("ended", .bool outcome.ended), apiVersion]

def game (session : Session) (state : GameState) : Document :=
  .object [sessionId session, status session, ("story_id", state.storyId),
    ("scene", optionalScene session.engine.scene), ("player", player state.player),
    ("inventory", .list (state.inventory.map item)), ("flags", state.flags.toDocument),
    ("relationships",
      .object (state.relationships.entries.map fun (key, value) => (key, .int value))),
    ("achievements", .list state.progress.achievementsUnlocked),
    ("scenes_visited", .list state.progress.scenesVisited),
    ("story_progress", .int state.progress.storyProgress),
    ("playtime", .int state.progress.playtime), apiVersion]

def itemUse (session : Session) (item : String) (use : ItemUse) : Document :=
  .object [sessionId session, ("item_id", .text item), ("success", .bool use.success),
    ("message", .text use.message), ("consumed", .bool use.consumed),
    ("equipped", .bool use.equipped), apiVersion]

def interaction (session : Session) (character : String) (interaction : Interaction) :
    Document :=
  .object [sessionId session, ("character_id", .text character),
    ("interaction", .text interaction.kind.label), ("success", .bool interaction.success),
    ("message", interaction.message), ("options", .list interaction.options),
    ("trade_items", .list interaction.tradeItems),
    ("quest_id", Document.ofOption (interaction.quest.map Quest.id)),
    ("mood", Fields.getD interaction.metadata "mood" .null),
    ("price_modifier", Fields.getD interaction.metadata "priceModifier" .null), apiVersion]

def saved (session : Session) (saved : SaveSlot) : Document :=
  .object [sessionId session, ("slot", slot saved), apiVersion]

def counted (name : String) (items : List Document) : Document :=
  .object [(name, .list items), ("count", .int items.length), apiVersion]

def settings (session : Session) (settings : Settings) : Document :=
  .object [sessionId session, ("settings", settings.toDocument), apiVersion]

def events (session : Session) (records : List EventRecord) : Document :=
  .object [sessionId session, ("events", .list (records.map event)), apiVersion]

end Report

end InteractiveFiction
