import InteractiveFiction.Document.Coercion
import InteractiveFiction.OrderedMap

/-!
Flags: named facts about a play-through, each a truth value, a number or a text.

A flag may be read under any document as its key; only a text can be the key of one.
-/

set_option autoImplicit false

namespace InteractiveFiction

inductive FlagValue where
  | bool (b : Bool)
  | number (n : Number)
  | text (s : String)
deriving DecidableEq

namespace FlagValue

def toDocument : FlagValue → Document
  | .bool b => .bool b
  | .number n => .number n
  | .text s => .text s

def ofDocument? : Document → Option FlagValue
  | .bool b => some (.bool b)
  | .number n => some (.number n)
  | .text s => some (.text s)
  | _ => none

/-- The key and the value that a pair of documents writes. -/
def check (key value : Document) : Result (String × FlagValue) :=
  match key with
  | .text name =>
    if name.isEmpty then throw (.content (.flagKey key))
    else
      match ofDocument? value with
      | some flag => pure (name, flag)
      | none => throw (.content (.flagValue name value.kind))
  | key => throw (.content (.flagKey key))

end FlagValue

abbrev Flags := OrderedMap FlagValue

namespace Flags

def set (flags : Flags) (key value : Document) : Result Flags := do
  let (name, flag) ← FlagValue.check key value
  pure (flags.insert name flag)

def setAll (flags news : Flags) : Flags :=
  news.entries.foldl (fun flags (key, value) => flags.insert key value) flags

/-- The flag under a key; nothing under a key that is not a text. -/
def find? (flags : Flags) (key : Document) : Option FlagValue :=
  key.text?.bind flags.get?

/-- A flag that is there and is not `false`. -/
def isSet (flags : Flags) (key : Document) : Bool :=
  match flags.find? key with
  | some flag => flag != .bool false
  | none => false

/-- The value of a flag as a document, null when there is none. -/
def value (flags : Flags) (key : Document) : Document :=
  match flags.find? key with
  | some flag => flag.toDocument
  | none => .null

def ofFields (fields : Fields) : Result Flags :=
  fields.foldlM (fun flags (key, value) => flags.set (.text key) value) OrderedMap.empty

def toFields (flags : Flags) : Fields :=
  flags.entries.map fun (key, flag) => (key, flag.toDocument)

def toDocument (flags : Flags) : Document :=
  .object flags.toFields

end Flags

end InteractiveFiction
