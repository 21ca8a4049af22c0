import InteractiveFiction.Decimal.Reading
import InteractiveFiction.Document

/-!
What can go wrong, by cause.

* `ContentFault`, `LifecycleFault`, `SavingFault`: the faults of the rules, each in its family.
* `ValueFault`: a text or a number that cannot become the number asked for.
* `Fault`: every cause together; `Fault.message` is the one place where wordings live, and
  `Fault.isOfGame` tells the faults that callers are meant to handle.
-/

set_option autoImplicit false

namespace InteractiveFiction

/-! ## Families -/

/-- Authored content, a saved state or a request that breaks a rule. -/
inductive ContentFault where
  | conditionNotObject (kind : String)
  | combinatorNotList (combinator : String)
  | negationNotObject
  | unknownOperator (operator : Document) (leaf : Document)
  | flagKey (key : Document)
  | flagValue (key : String) (kind : String)
  | itemWithoutId (item : Document)
  | stateLacks (fields : List String)
  | inventoryNotList
  | customWithoutType (custom : Document)
  | audioCue (cue : Document)
  | effectNotObject (kind : String)
  | unknownEffectKeys (keys : List String)
  | effectValue (name : String) (shown : String)
  | addedItemNotObject (item : Document)
  | addedItemNameless (item : Document)
  | removalWithoutId (removal : Document)
  | unknownRequirement (type : Document)
  | requirementWithoutType (requirement : Document)
  | unknownChoiceType (choice : Document) (type : Document)
  | recordLacks (record : String) (field : String) (document : Document)
  | timeEffectsNotObject (scene : Document)
  | timeEffectsDelay (scene : Document) (delay : Document)
  | timeEffectsNegative (scene : Document)
  | storyNotObject
  | storyWithoutScenes (story : Document)
  | duplicateId (record : String) (id : Document)
  | storyNotFound (story : Document)
  | notJson (path : String)
  | characterAbsent (character : Document)
  | unknownInteraction (kind : Document)
  | unknownSettings (names : List String)
deriving DecidableEq

/-- An operation that the engine's lifecycle does not allow now. -/
inductive LifecycleFault where
  | notInitialized (operation : String)
  | noActiveGame (operation : String)
  | gameEnded
  | wrongStatus (operation : String) (expected : String) (actual : String)
deriving DecidableEq

inductive SavingFault where
  | slotNotFound (slot : String)
  | slotCorrupt (slot : String) (cause : String)
  | slotId (slot : Document)
  | unreadable (file : String)
  | unwritable (file : String)
  | undeletable (file : String)
  | saveFailed (cause : String)
  | refused (reason : String)
deriving DecidableEq

inductive ValueFault where
  | notAnInt (text : String)
  | intTooLong (digits : Nat)
  | intUnwritable
  | nullByte
  | notAFloat (text : String)
  | noIntOfNaN
  | pairLength (index : Nat) (length : Nat)
  | sortKey (key : Document)
  | itemNotHeld (item : Document)
deriving DecidableEq

/-- An operation asked of a value of the wrong kind. -/
inductive KindFault where
  | notANumber (operation : String) (kind : String)
  | notIterable (kind : String)
  | notContainer (kind : String)
  | notIndexable (kind : String)
  | notAPair (index : Nat)
  /-- What a condition looks up and cannot. -/
  | notAKey (kind : String)
  /-- What anything else looks up, or keeps under, and cannot. -/
  | notAnId (kind : String)
  | operand (detail : String)
deriving DecidableEq

inductive RangeFault where
  | intTooLarge
  | quotientTooLarge
  | infiniteInt
deriving DecidableEq

/-! ## Causes -/

inductive Fault where
  | content (fault : ContentFault)
  | unknownCondition (key : String) (path : String)
  | sceneNotFound (scene : Document)
  | sceneInaccessible (scene : Document)
  | choiceUnavailable (choice : Document) (reason : String)
  | storyInvalid (errors : List String)
  | lifecycle (fault : LifecycleFault)
  | saving (fault : SavingFault)
  | effect (type : String) (reason : String)
  | value (fault : ValueFault)
  | missingKey (key : String)
  | range (fault : RangeFault)
  | mistyped (fault : KindFault)
  | noField (kind : String) (field : String)
  | device (reason : String)
  | fileMissing (path : String)
  | inputEnded
  | outOfRange
deriving DecidableEq

/-! ## Wordings -/

def ContentFault.message : ContentFault → String
  | .conditionNotObject kind => s!"Condition must be an object, got {kind}"
  | .combinatorNotList combinator => s!"'{combinator}' expects a list of conditions"
  | .negationNotObject => "'not' expects a single condition object"
  | .unknownOperator operator leaf =>
    s!"Unknown operator '{operator.display}' in condition {leaf.quoted}"
  | .flagKey key => s!"Flag key must be a non-empty string, got {key.quoted}"
  | .flagValue key kind => s!"Flag '{key}' must be bool, number or string, got {kind}"
  | .itemWithoutId item => s!"Item is missing an id: {item.quoted}"
  | .stateLacks fields => "Invalid game state, missing: " ++ ", ".intercalate fields
  | .inventoryNotList => "Invalid game state, inventory must be a list"
  | .customWithoutType custom => s!"Custom effect needs a 'type': {custom.quoted}"
  | .audioCue cue => s!"Invalid audio cue: {cue.quoted}"
  | .effectNotObject kind => s!"Effect must be an object, got {kind}"
  | .unknownEffectKeys keys => "Unknown effect keys: " ++ ", ".intercalate keys
  | .effectValue name shown => s!"Effect value '{name}' must be a number, got {shown}"
  | .addedItemNotObject item => s!"Item to add must be an object: {item.quoted}"
  | .addedItemNameless item => s!"Item to add needs an id or a name: {item.quoted}"
  | .removalWithoutId removal => s!"Item to remove needs an id: {removal.quoted}"
  | .unknownRequirement type => s!"Unknown requirement type '{type.display}'"
  | .requirementWithoutType requirement => s!"Requirement needs a 'type': {requirement.quoted}"
  | .unknownChoiceType choice type =>
    s!"Choice '{choice.display}' has unknown type '{type.display}'"
  | .recordLacks record field document =>
    s!"Invalid {record}: missing '{field}' in {document.quoted}"
  | .timeEffectsNotObject scene => s!"Scene {scene.display}: timeEffects must be an object"
  | .timeEffectsDelay scene delay =>
    s!"Scene {scene.display}: invalid timeEffects delay {delay.quoted}"
  | .timeEffectsNegative scene =>
    s!"Scene {scene.display}: timeEffects delay must not be negative"
  | .storyNotObject => "Story document must be an object"
  | .storyWithoutScenes story => s!"Story '{story.display}' has no scenes"
  | .duplicateId record id => s!"Duplicate {record} id '{id.display}'"
  | .storyNotFound story => s!"Story not found: {story.display}"
  | .notJson path => s!"{path} is not valid JSON"
  | .characterAbsent character => s!"Character not present: {character.display}"
  | .unknownInteraction kind => s!"Unknown interaction type: {kind.display}"
  | .unknownSettings names => "Unknown settings: " ++ ", ".intercalate names

def LifecycleFault.message : LifecycleFault → String
  | .notInitialized operation => s!"{operation}: engine not initialized"
  | .noActiveGame operation => s!"{operation}: no active game"
  | .gameEnded => "The game has ended"
  | .wrongStatus operation expected actual =>
    s!"{operation} requires the engine to be {expected}, it is {actual}"

def SavingFault.message : SavingFault → String
  | .slotNotFound slot => s!"Save slot not found: {slot}"
  | .slotCorrupt slot cause => s!"Save slot {slot} is corrupt: {cause}"
  | .slotId slot => s!"Invalid save slot id: {slot.quoted}"
  | .unreadable file => s!"Could not read {file}"
  | .unwritable file => s!"Could not write {file}"
  | .undeletable file => s!"Could not delete {file}"
  | .saveFailed cause => s!"Save failed: {cause}"
  | .refused reason => reason

def ValueFault.message : ValueFault → String
  | .notAnInt text => s!"invalid literal for int() with base 10: {Quoted.encode text}"
  | .intTooLong digits =>
    s!"Exceeds the limit ({digitLimit} digits) for integer string conversion: " ++
      s!"value has {digits} digits; use sys.set_int_max_str_digits() to increase the limit"
  | .intUnwritable =>
    s!"Exceeds the limit ({digitLimit} digits) for integer string conversion; " ++
      "use sys.set_int_max_str_digits() to increase the limit"
  | .nullByte => "embedded null byte"
  | .notAFloat text => s!"could not convert string to float: {Quoted.encode text}"
  | .noIntOfNaN => "cannot convert float NaN to integer"
  | .pairLength index length =>
    s!"dictionary update sequence element #{index} has length {length}; 2 is required"
  | .sortKey key => s!"Cannot sort inventory by '{key.display}'"
  | .itemNotHeld item => s!"Item {item.display} is not in the inventory"

def RangeFault.message : RangeFault → String
  | .intTooLarge => "int too large to convert to float"
  | .quotientTooLarge => "integer division result too large for a float"
  | .infiniteInt => "cannot convert float infinity to integer"

def KindFault.message : KindFault → String
  | .notANumber operation kind =>
    if operation == "int" then
      s!"int() argument must be a string, a bytes-like object or a real number, not '{kind}'"
    else
      s!"{operation}() argument must be a string or a real number, not '{kind}'"
  | .notIterable kind => s!"'{kind}' object is not iterable"
  | .notContainer kind => s!"argument of type '{kind}' is not iterable"
  | .notIndexable kind =>
    if kind == "str" then "string indices must be integers, not 'str'"
    else if kind == "list" then "list indices must be integers or slices, not str"
    else s!"'{kind}' object is not subscriptable"
  | .notAPair index =>
    s!"cannot convert dictionary update sequence element #{index} to a sequence"
  | .notAKey kind | .notAnId kind => s!"unhashable type: '{kind}'"
  | .operand detail => detail

def Fault.message : Fault → String
  | .content fault => fault.message
  | .unknownCondition key path =>
    s!"Unknown condition key '{key}'" ++ (if path.isEmpty then "" else s!" at {path}")
  | .sceneNotFound scene => s!"Scene not found: {scene.display}"
  | .sceneInaccessible scene =>
    s!"Scene {scene.display} is not accessible under current conditions"
  | .choiceUnavailable choice reason =>
    s!"Choice {choice.display} is not available" ++
      (if reason.isEmpty then "" else s!": {reason}")
  | .storyInvalid errors => s!"Story validation failed with {errors.length} error(s)"
  | .lifecycle fault => fault.message
  | .saving fault => fault.message
  | .effect type reason => s!"{type}: {reason}"
  | .value fault => fault.message
  | .missingKey key => Quoted.encode key
  | .range fault => fault.message
  | .mistyped fault => fault.message
  | .noField kind field => s!"'{kind}' object has no attribute '{field}'"
  | .device reason => reason
  | .fileMissing path => s!"[Errno 2] No such file or directory: {Quoted.encode path}"
  | .inputEnded => "EOF when reading a line"
  | .outOfRange => "list index out of range"

/-- Content that breaks a rule, with its more special causes. -/
def Fault.isOfContent : Fault → Bool
  | .content _ | .unknownCondition .. | .sceneNotFound _ | .sceneInaccessible _
  | .choiceUnavailable .. | .storyInvalid _ => true
  | _ => false

def Fault.isOfSaving : Fault → Bool
  | .saving _ => true
  | _ => false

/-- The faults that the rules raise on purpose; the rest are malformed numbers, absent keys and
values of a wrong kind. -/
def Fault.isOfGame : Fault → Bool
  | .lifecycle _ | .saving _ | .effect .. => true
  | fault => fault.isOfContent

/-- The faults that show a saved document to be malformed. -/
def Fault.isOfReading : Fault → Bool
  | .value _ | .missingKey _ | .mistyped _ => true
  | fault => fault.isOfContent

/-- The name of the family of a fault, as reports give it. -/
def Fault.family : Fault → String
  | .content _ => "ValidationError"
  | .unknownCondition .. => "UnknownConditionError"
  | .sceneNotFound _ => "SceneNotFoundError"
  | .sceneInaccessible _ => "SceneInaccessibleError"
  | .choiceUnavailable .. => "ChoiceUnavailableError"
  | .storyInvalid _ => "StoryValidationError"
  | .lifecycle _ => "StateError"
  | .saving _ => "PersistenceError"
  | .effect .. => "EffectError"
  | .value _ => "ValueError"
  | .missingKey _ => "KeyError"
  | .range _ => "OverflowError"
  | .mistyped _ => "TypeError"
  | .noField .. => "AttributeError"
  | .device _ => "OSError"
  | .fileMissing _ => "FileNotFoundError"
  | .inputEnded => "EOFError"
  | .outOfRange => "IndexError"

abbrev Result := Except Fault

end InteractiveFiction
