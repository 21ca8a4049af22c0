import InteractiveFiction.State

/-!
Text with placeholders in braces.

* `Template.pieces`: one pass over a text; what stands between two braces may be replaced, and a
  replacement is not looked at again.
* `Template.write`: placeholders `player.…`, `flag.…` and `inventory.count.…`; one that cannot be
  resolved stays as written.  Integers that are too long to be written are refused;
  `Template.render` writes them all the same.
* `Template.writeChoice`: the same after `require:…` has become a remark in brackets.
-/

set_option autoImplicit false

namespace InteractiveFiction

namespace Template

def isBrace (c : Char) : Bool :=
  c == '\x7b' || c == '\x7d'

/-- A character as it stands in a text, or what stands for a placeholder. -/
inductive Piece (α : Type) where
  | char (c : Char)
  | value (a : α)

/-- Takes apart a text: each `{body}` is a piece for which `resolve` has a value.  A body holds no
brace and is not empty. -/
def pieces {α : Type} (resolve : String → Option α) (cs : List Char) : List (Piece α) :=
  match cs with
  | [] => []
  | c :: cs =>
    if c = '\x7b' then
      let body := cs.takeWhile fun c => !isBrace c
      let closed := cs[body.length]? == some '\x7d'
      match (if closed && !body.isEmpty then resolve (String.ofList body) else none) with
      | some a => .value a :: pieces resolve (cs.drop (body.length + 1))
      | none => .char c :: pieces resolve cs
    else .char c :: pieces resolve cs
termination_by cs.length
decreasing_by all_goals (simp only [List.length_drop, List.length_cons]; omega)

/-- Puts a text together again. -/
def expand {α : Type} (shown : α → String) (pieces : List (Piece α)) : List Char :=
  pieces.flatMap fun
    | .char c => [c]
    | .value a => (shown a).toList

/-! ## Placeholders -/

inductive Placeholder where
  | player (field : String)
  | flag (name : String)
  | itemCount (idOrName : String)
deriving DecidableEq

/-- What follows a beginning of a text, when something does. -/
def after? (beginning s : String) : Option String :=
  let head := beginning.toList
  let cs := s.toList
  if cs.take head.length == head && head.length < cs.length then
    some (String.ofList (cs.drop head.length))
  else none

def Placeholder.ofBody? (body : String) : Option Placeholder :=
  match after? "player." body, after? "flag." body, after? "inventory.count." body with
  | some field, _, _ => some (.player field)
  | _, some name, _ => some (.flag name)
  | _, _, some idOrName => some (.itemCount idOrName)
  | _, _, _ => none

/-- A field of the player, or else an attribute of that name. -/
def playerField (player : Player) (field : String) : Document :=
  match field with
  | "name" => player.name
  | "level" => .int player.level
  | "health" => .int player.health
  | "maxHealth" | "max_health" => .int player.maxHealth
  | "mana" => .int player.mana
  | "maxMana" | "max_mana" => .int player.maxMana
  | "experience" => .number player.experience
  | "gold" => .int player.gold
  | field => Document.ofOption ((player.attributes.get? field).map Document.int)

/-- The value of a placeholder, null when there is none. -/
def Placeholder.value (state : GameState) : Placeholder → Document
  | .player field => playerField state.player field
  | .flag name => state.flags.value (.text name)
  | .itemCount idOrName => .int (state.itemQuantity idOrName)

/-- A value as it stands in a text: truth values in small letters. -/
def format : Document → String
  | .bool b => if b then "true" else "false"
  | d => d.display

/-- The same, refused when an integer in it is too long to be written. -/
def formatted (d : Document) : Result String :=
  if d.isWritable then pure (format d) else throw (.value .intUnwritable)

def resolve (state : GameState) (body : String) : Option Document :=
  match Placeholder.ofBody? body with
  | some placeholder => (placeholder.value state).toOption
  | none => none

/-- A text with its placeholders replaced, however long the integers are. -/
def render (state : GameState) (text : String) : String :=
  String.ofList (expand format (pieces (resolve state) text.toList))

/-- The values that stand for placeholders. -/
def values {α : Type} (pieces : List (Piece α)) : List α :=
  pieces.filterMap fun
    | .char _ => none
    | .value a => some a

def write (state : GameState) (text : String) : Result String :=
  if (values (pieces (resolve state) text.toList)).all Document.isWritable then
    pure (render state text)
  else throw (.value .intUnwritable)

/-! ## Choices -/

def requirementRemark (body : String) : Option String :=
  (after? "require:" body).map fun needed => "[Requires: " ++ needed ++ "]"

/-- The text of a choice with its requirements as remarks. -/
def remarked (text : String) : String :=
  String.ofList (expand id (pieces requirementRemark text.toList))

def renderChoice (state : GameState) (text : String) : String :=
  render state (remarked text)

def writeChoice (state : GameState) (text : String) : Result String :=
  write state (remarked text)

/-! ## Authored texts -/

/-- The text an author wrote; what is absent counts as empty. -/
def authored (d : Document) : Result String :=
  match d with
  | .text s => pure s
  | d =>
    if d.isTruthy then
      throw (.mistyped (.operand s!"expected string or bytes-like object, got '{d.kind}'"))
    else pure ""

end Template

end InteractiveFiction
