import InteractiveFiction.Decimal.Reading
import InteractiveFiction.Fault

/-!
Documents turned into integers, doubles, lists and fields.

An integer is asked of integers, doubles (the fraction is dropped), truth values and texts; a
double of the same.  A list is asked of lists, of texts (their characters) and of objects (their
keys); fields of objects and of lists of pairs.
-/

set_option autoImplicit false

namespace InteractiveFiction

namespace Number

def toInt : Number → Result Int
  | .int n => pure n
  | .float x =>
    match Binary.ofFloat x with
    | .notANumber => throw (.value .noIntOfNaN)
    | .infinite _ => throw (.range .infiniteInt)
    | value => pure (value.truncate?.getD 0)

/-- A number in running text, refused when it is an integer of too many digits. -/
def written (n : Number) : Result String :=
  if n.isWritable then pure n.text else throw (.value .intUnwritable)

/-- The nearest double, refused when an integer is beyond every double. -/
def toFloat? : Number → Result Float
  | .int n =>
    match Binary.ofFloat (Rounding.ofInt n) with
    | .infinite _ => throw (.range .intTooLarge)
    | _ => pure (Rounding.ofInt n)
  | .float x => pure x

/-- The sum of two numbers; an integer is added to a double as the double nearest to it. -/
def plus : Number → Number → Result Number
  | .int a, .int b => pure (.int (a + b))
  | a, b => do pure (.float ((← a.toFloat?) + (← b.toFloat?)))

/-- The double nearest to a quotient, refused when the quotient of integers is beyond every
double. -/
def dividedBy (n : Number) (divisor : Nat) : Result Float :=
  match n with
  | .int n =>
    let quotient := Rounding.nearest (decide (n < 0)) n.natAbs divisor
    match Binary.ofFloat quotient with
    | .infinite _ => throw (.range .quotientTooLarge)
    | _ => pure quotient
  | .float x => pure (x / Rounding.ofInt divisor)

/-- The greatest integer that is not above a number. -/
def floor : Number → Result Int
  | .int n => pure n
  | .float x =>
    match Binary.ofFloat x with
    | .notANumber => throw (.value .noIntOfNaN)
    | .infinite _ => throw (.range .infiniteInt)
    | value => pure (value.floor?.getD 0)

end Number

namespace Document

def toInt : Document → Result Int
  | .text s =>
    match readInt s with
    | .value n => pure n
    | .malformed => throw (.value (.notAnInt s))
    | .tooLong digits => throw (.value (.intTooLong digits))
  | d =>
    match d.number? with
    | some n => n.toInt
    | none => throw (.mistyped (.notANumber "int" d.kind))

def toFloat : Document → Result Float
  | .text s =>
    match readFloat? s with
    | some x => pure x
    | none => throw (.value (.notAFloat s))
  | d =>
    match d.number? with
    | some n => n.toFloat?
    | none => throw (.mistyped (.notANumber "float" d.kind))

def toItems : Document → Result (List Document)
  | .list items => pure items
  | .text s => pure (s.toList.map fun c => .text c.toString)
  | .object fields => pure (fields.map fun (key, _) => .text key)
  | d => throw (.mistyped (.notIterable d.kind))

/-- The fields of an object; `access` is the operation that asked for them. -/
def fields (d : Document) (access : String) : Result Fields :=
  match d with
  | .object fields => pure fields
  | d => throw (.noField d.kind access)

def require (d : Document) (key : String) : Result Document :=
  match d with
  | .object fields =>
    match fields.lookup key with
    | some value => pure value
    | none => throw (.missingKey key)
  | d => throw (.mistyped (.notIndexable d.kind))

/-- Fails on a value that cannot be a key. -/
def checkKey (d : Document) : Result Unit :=
  if d.isKey then pure () else throw (.mistyped (.notAnId d.kind))

/-- Whether two values are one key: they are the same, or they are equal. -/
def sameKey (a b : Document) : Bool :=
  a == b || a.equals b

/-- Texts one after another, with a text between them; each must be a text. -/
def joined (separator : String) (parts : List Document) : Result String :=
  match parts.findIdx? fun part => part.text?.isNone with
  | some place =>
    let kind := (parts.getD place .null).kind
    throw (.mistyped (.operand s!"sequence item {place}: expected str instance, {kind} found"))
  | none => pure (separator.intercalate (parts.map display))

/-- A value in running text, refused when an integer in it has too many digits. -/
def written (d : Document) : Result String :=
  if d.isWritable then pure d.display else throw (.value .intUnwritable)

/-- The text of a key: texts as they are, other scalars as a document writes them. -/
def toKey : Document → String
  | .text s => s
  | .null => "null"
  | .bool b => if b then "true" else "false"
  | d => d.display

end Document

namespace Fields

def get (fields : Fields) (key : String) : Option Document :=
  List.lookup key fields

def getD (fields : Fields) (key : String) (default : Document) : Document :=
  (List.lookup key fields).getD default

/-- A field, with what is absent replaced by the default. -/
def getOr (fields : Fields) (key : String) (default : Document) : Document :=
  Document.orElse (List.lookup key fields) default

def has (fields : Fields) (key : String) : Bool :=
  (List.lookup key fields).isSome

/-- Gives a field a value: in place when there is such a field, at the end otherwise. -/
def put (fields : Fields) (key : String) (value : Document) : Fields :=
  if has fields key then
    fields.map fun (k, v) => if k == key then (k, value) else (k, v)
  else
    fields ++ [(key, value)]

def without (fields : Fields) (key : String) : Fields :=
  fields.filter fun (k, _) => k != key

end Fields

namespace Document

/-- The fields of an object, or of a list of pairs. -/
def toFields : Document → Result Fields
  | .object fields => pure fields
  | .text s =>
    if s.isEmpty then pure [] else throw (.value (.pairLength 0 1))
  | .list items => go 0 items []
  | d => throw (.mistyped (.notIterable d.kind))
where
  go (index : Nat) (items : List Document) (found : Fields) : Result Fields :=
    match items with
    | [] => pure found
    | item :: items =>
      match item.toItems with
      | .error _ => throw (.mistyped (.notAPair index))
      | .ok [key, value] =>
        if key.isKey then go (index + 1) items (found.put key.toKey value)
        else throw (.mistyped (.notAnId key.kind))
      | .ok other => throw (.value (.pairLength index other.length))

end Document

end InteractiveFiction
