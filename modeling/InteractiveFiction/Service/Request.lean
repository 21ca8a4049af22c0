import InteractiveFiction.Cast
import InteractiveFiction.Text.Lowercase

/-!
Requests to the service: the fields they need, and what is wrong with those that they have.

A request is read field by field; all that is wrong with it is reported together.  Fields that are
not known are passed over.
-/

set_option autoImplicit false

namespace InteractiveFiction

inductive FieldFault where
  | missing | notText | tooShort | notOneOf | notPositive | notANumber | unreadableNumber
  | notABoolean | unreadableBoolean
deriving DecidableEq, Repr

namespace FieldFault

def label : FieldFault → String
  | .missing => "missing"
  | .notText => "string_type"
  | .tooShort => "string_too_short"
  | .notOneOf => "enum"
  | .notPositive => "greater_than"
  | .notANumber => "float_type"
  | .unreadableNumber => "float_parsing"
  | .notABoolean => "bool_type"
  | .unreadableBoolean => "bool_parsing"

end FieldFault

structure FieldProblem where
  field : String
  fault : FieldFault
deriving DecidableEq

abbrev Reading := Except (List FieldProblem)

namespace Reading

/-- Two readings together, with the problems of both. -/
def both {α β : Type} (a : Reading α) (b : Reading β) : Reading (α × β) :=
  match a, b with
  | .ok a, .ok b => .ok (a, b)
  | .error p, .error q => .error (p ++ q)
  | .error p, .ok _ | .ok _, .error p => .error p

def refuse {α : Type} (field : String) (fault : FieldFault) : Reading α :=
  .error [⟨field, fault⟩]

/-- A text of a least length. -/
def text (field : String) (least : Nat) : Document → Reading String
  | .text s => if s.length < least then refuse field .tooShort else pure s
  | _ => refuse field .notText

def required (body : Fields) (field : String) (least : Nat) : Reading String :=
  match body.get field with
  | some d => text field least d
  | none => refuse field .missing

/-- A field that may be absent or null. -/
def optional {α : Type} (body : Fields) (field : String) (read : Document → Reading α) :
    Reading (Option α) :=
  match body.getD field .null with
  | .null => pure none
  | d => do pure (some (← read d))

/-- The spellings of truth values in texts. -/
def boolOfText? (s : String) : Option Bool :=
  let s := lowerText s
  if ["0", "off", "f", "false", "n", "no"].contains s then some false
  else if ["1", "on", "t", "true", "y", "yes"].contains s then some true
  else none

def bool (field : String) : Document → Reading Bool
  | .bool b => pure b
  | .text s =>
    match boolOfText? s with
    | some b => pure b
    | none => refuse field .unreadableBoolean
  | .number n =>
    if n.isZero then pure false
    else if n.equals 1 then pure true
    else if n.truncate?.any fun whole => (Number.int whole).equals n then
      refuse field .unreadableBoolean
    else refuse field .notABoolean
  | _ => refuse field .notABoolean

def seconds (field : String) (d : Document) : Reading Float :=
  match d with
  | .null | .list _ | .object _ => refuse field .notANumber
  | d =>
    match d.toFloat with
    | .ok x => if (0 : Number).lt (.float x) then pure x else refuse field .notPositive
    | .error _ => refuse field (if d.text?.isSome then .unreadableNumber else .notANumber)

end Reading

/-! ## Requests -/

structure StartRequest where
  story : String
  player : Option String
deriving DecidableEq

structure InteractRequest where
  character : String
  kind : InteractionKind
deriving DecidableEq

/-- A request, with the session that it is made in where it is made in one. -/
inductive Request where
  | createSession (player : String)
  | startGame (request : StartRequest)
  | loadGame (slot : String)
  | makeChoice (choice : String)
  | useItem (item : String)
  | interact (request : InteractRequest)
  | saveGame (name : String)
  | updateSettings (changes : Fields)

namespace Request

def createSession? (body : Fields) : Reading Request := do
  pure (.createSession (← Reading.text "player_name" 1 (body.getD "player_name" "Player")))

def startGame? (body : Fields) : Reading Request := do
  let (story, player) ← (Reading.required body "story_id" 0).both
    (Reading.optional body "player_name" (Reading.text "player_name" 0))
  pure (.startGame { story, player })

def loadGame? (body : Fields) : Reading Request := do
  pure (.loadGame (← Reading.required body "slot_id" 0))

def makeChoice? (body : Fields) : Reading Request := do
  pure (.makeChoice (← Reading.required body "choice_id" 0))

def useItem? (body : Fields) : Reading Request := do
  pure (.useItem (← Reading.required body "item_id" 0))

def kindOf (d : Document) : Reading InteractionKind :=
  match InteractionKind.ofDocument? d with
  | some kind => pure kind
  | none => Reading.refuse "interaction" .notOneOf

def interact? (body : Fields) : Reading Request := do
  let (character, kind) ← (Reading.required body "character_id" 0).both
    (kindOf (body.getD "interaction" "talk"))
  pure (.interact { character, kind })

def saveGame? (body : Fields) : Reading Request := do
  pure (.saveGame (← Reading.required body "name" 1))

/-- A setting among the changes, if it is to be changed. -/
def change (name : String) (value : Option Document) : Fields :=
  (value.map fun value => (name, value)).toList

def updateSettings? (body : Fields) : Reading Request := do
  let bool (name : String) := (Reading.optional body name (Reading.bool name))
  let text (name : String) := (Reading.optional body name (Reading.text name 0))
  let (autosave, interval, speed, sound, music, difficulty) ←
    (bool "autosave").both <|
    (Reading.optional body "autosave_interval" (Reading.seconds "autosave_interval")).both <|
    (text "text_speed").both <| (bool "sound_enabled").both <|
    (bool "music_enabled").both (text "difficulty")
  pure (.updateSettings (
    change "autosave" (autosave.map Document.bool) ++
    change "autosave_interval" (interval.map Document.float) ++
    change "text_speed" (speed.map Document.text) ++
    change "sound_enabled" (sound.map Document.bool) ++
    change "music_enabled" (music.map Document.bool) ++
    change "difficulty" (difficulty.map Document.text)))

end Request

end InteractiveFiction
