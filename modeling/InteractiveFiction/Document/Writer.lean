import InteractiveFiction.Document

/-!
Documents written as text: JSON in ASCII, without spaces, the fields of an object in the order of
their keys.  Two documents that differ only in the order of fields have one text.
-/

set_option autoImplicit false

namespace InteractiveFiction

namespace Writer

def unit (n : Nat) : String :=
  "\\u" ++ hexText 4 n

/-- A character beyond the first plane is written as a pair. -/
def escape (c : Char) : String :=
  if c == '"' then "\\\""
  else if c == '\\' then "\\\\"
  else if 32 ≤ c.toNat && c.toNat < 127 then c.toString
  else if c.toNat < 0x10000 then unit c.toNat
  else
    let offset := c.toNat - 0x10000
    unit (0xD800 + offset / 0x400) ++ unit (0xDC00 + offset % 0x400)

def text (s : String) : String :=
  "\"" ++ String.join (s.toList.map escape) ++ "\""

def number : Number → String
  | .int n => toString n
  | .float x =>
    match Binary.ofFloat x with
    | .notANumber => "NaN"
    | .infinite negative => if negative then "-Infinity" else "Infinity"
    | _ => (Number.float x).text

def byKey (fields : List (String × String)) : List (String × String) :=
  fields.mergeSort fun a b => decide (a.1 ≤ b.1)

end Writer

namespace Document

mutual

def write : Document → String
  | .null => "null"
  | .bool b => if b then "true" else "false"
  | .number n => Writer.number n
  | .text s => Writer.text s
  | .list items => "[" ++ ",".intercalate (writeItems items) ++ "]"
  | .object fields =>
    let written := (Writer.byKey (writeFields fields)).map fun (key, value) =>
      Writer.text key ++ ":" ++ value
    "\x7b" ++ ",".intercalate written ++ "\x7d"

def writeItems : List Document → List String
  | [] => []
  | d :: ds => d.write :: writeItems ds

def writeFields : List (String × Document) → List (String × String)
  | [] => []
  | (key, d) :: rest => (key, d.write) :: writeFields rest

end

end Document

end InteractiveFiction
