import InteractiveFiction.Document.Coercion

/-!
Documents read from text.  The format is JSON with two liberties: `NaN` and the infinities may be
written, and a repeated key keeps its first place and takes its last value.  Numbers with a point
or an exponent are doubles, all others integers, of at most `digitLimit` digits.

`Document.read` tells why a text gives no document; `Document.read?` gives nothing on it.
-/

set_option autoImplicit false

namespace InteractiveFiction

/-- Why a text gives no document: it breaks the format, or an integer comes up that is too long. -/
inductive ReadFailure where
  | malformed
  | tooLong (digits : Nat)
deriving DecidableEq

namespace Reader

/-- A document and the rest of the text. -/
abbrev Read := Except ReadFailure (Document × List Char)

def wellFormed {α : Type} : Option α → Except ReadFailure α
  | some a => .ok a
  | none => .error .malformed

def isSpace (c : Char) : Bool :=
  c == ' ' || c == '\t' || c == '\n' || c == '\r'

def skip (cs : List Char) : List Char :=
  cs.dropWhile isSpace

def isDigit (c : Char) : Bool :=
  '0' ≤ c && c ≤ '9'

def digitsOf (cs : List Char) : Nat :=
  cs.foldl (fun n c => 10 * n + (c.toNat - 48)) 0

/-! ## Texts -/

def hexValue? (c : Char) : Option Nat :=
  if isDigit c then some (c.toNat - 48)
  else if 'a' ≤ c && c ≤ 'f' then some (c.toNat - 87)
  else if 'A' ≤ c && c ≤ 'F' then some (c.toNat - 55)
  else none

def hexFour? : List Char → Option (Nat × List Char)
  | a :: b :: c :: d :: rest => do
    let a ← hexValue? a
    let b ← hexValue? b
    let c ← hexValue? c
    let d ← hexValue? d
    pure (((a * 16 + b) * 16 + c) * 16 + d, rest)
  | _ => none

/-- The character after `\u`; two halves of a pair make one character, and a lone half is
replaced. -/
def unicode? (cs : List Char) : Option (Char × List Char) := do
  let (first, rest) ← hexFour? cs
  if 0xD800 ≤ first && first ≤ 0xDBFF then
    match rest with
    | '\\' :: 'u' :: rest' =>
      match hexFour? rest' with
      | some (second, rest'') =>
        if 0xDC00 ≤ second && second ≤ 0xDFFF then
          pure (Char.ofNat (0x10000 + (first - 0xD800) * 0x400 + (second - 0xDC00)), rest'')
        else pure (Char.ofNat 0xFFFD, rest)
      | none => none
    | _ => pure (Char.ofNat 0xFFFD, rest)
  else if 0xDC00 ≤ first && first ≤ 0xDFFF then pure (Char.ofNat 0xFFFD, rest)
  else pure (Char.ofNat first, rest)

def escaped? : List Char → Option (Char × List Char)
  | 'u' :: rest => unicode? rest
  | '"' :: rest => some ('"', rest)
  | '\\' :: rest => some ('\\', rest)
  | '/' :: rest => some ('/', rest)
  | 'b' :: rest => some (Char.ofNat 8, rest)
  | 'f' :: rest => some (Char.ofNat 12, rest)
  | 'n' :: rest => some ('\n', rest)
  | 'r' :: rest => some ('\r', rest)
  | 't' :: rest => some ('\t', rest)
  | _ => none

/-- The text up to its closing quote, of at most `fuel` characters; `found` is reversed. -/
def text? (fuel : Nat) (cs : List Char) (found : List Char) : Option (String × List Char) :=
  match fuel with
  | 0 => none
  | fuel + 1 =>
    match cs with
    | [] => none
    | '"' :: rest => some (String.ofList found.reverse, rest)
    | '\\' :: rest =>
      match escaped? rest with
      | some (c, rest) => text? fuel rest (c :: found)
      | none => none
    | c :: rest => if c.toNat < 32 then none else text? fuel rest (c :: found)

/-! ## Numbers -/

def whole? : List Char → Option (List Char × List Char)
  | '0' :: rest => some (['0'], rest)
  | c :: rest =>
    if '1' ≤ c && c ≤ '9' then some (c :: rest.takeWhile isDigit, rest.dropWhile isDigit) else none
  | [] => none

def fraction (cs : List Char) : List Char × List Char :=
  match cs with
  | '.' :: rest =>
    if (rest.takeWhile isDigit).isEmpty then ([], cs)
    else (rest.takeWhile isDigit, rest.dropWhile isDigit)
  | _ => ([], cs)

def exponent (cs : List Char) : Option Int × List Char :=
  match cs with
  | e :: rest =>
    if e == 'e' || e == 'E' then
      let (negative, rest) := Reading.splitSign rest
      let digits := rest.takeWhile isDigit
      if digits.isEmpty then (none, cs)
      else (some (Reading.withSign negative (digitsOf digits)), rest.dropWhile isDigit)
    else (none, cs)
  | [] => (none, cs)

def number (negative : Bool) (cs : List Char) : Read := do
  let (whole, rest) ← wellFormed (whole? cs)
  let (fraction, rest) := fraction rest
  let (exponent, rest) := exponent rest
  if fraction.isEmpty && exponent.isNone then
    if digitLimit < whole.length then throw (.tooLong whole.length)
    else pure (.int (Reading.withSign negative (digitsOf whole)), rest)
  else
    pure (.float (Rounding.ofDecimal negative (digitsOf (whole ++ fraction))
      (exponent.getD 0 - fraction.length)), rest)

/-! ## Values -/

/-- The rest of a text that begins with a word. -/
def after? (word : String) (cs : List Char) : Option (List Char) :=
  let w := word.toList
  if cs.take w.length == w then some (cs.drop w.length) else none

def word (word : String) (d : Document) (cs : List Char) : Read :=
  wellFormed ((after? word cs).map fun rest => (d, rest))

def scalar (cs : List Char) : Read :=
  match cs with
  | 'n' :: _ => word "null" .null cs
  | 't' :: _ => word "true" (.bool true) cs
  | 'f' :: _ => word "false" (.bool false) cs
  | 'N' :: _ => word "NaN" (.float (0.0 / 0.0)) cs
  | 'I' :: _ => word "Infinity" (.float (1.0 / 0.0)) cs
  | '-' :: 'I' :: _ => word "-Infinity" (.float (-(1.0 / 0.0))) cs
  | '-' :: rest => number true rest
  | _ => number false cs

mutual

def value (fuel : Nat) (cs : List Char) : Read :=
  match fuel with
  | 0 => throw .malformed
  | fuel + 1 =>
    match cs with
    | '"' :: rest => wellFormed ((text? (fuel + 1) rest []).map fun (s, rest) => (.text s, rest))
    | '[' :: rest =>
      match skip rest with
      | ']' :: rest => pure (.list [], rest)
      | rest => items fuel rest []
    | '\x7b' :: rest =>
      match skip rest with
      | '\x7d' :: rest => pure (.object [], rest)
      | rest => fields fuel rest []
    | cs => scalar cs

/-- The items of a list from the next one on; `found` is reversed. -/
def items (fuel : Nat) (cs : List Char) (found : List Document) : Read :=
  match fuel with
  | 0 => throw .malformed
  | fuel + 1 =>
    match value fuel cs with
    | .error failure => throw failure
    | .ok (item, rest) =>
      match skip rest with
      | ',' :: rest => items fuel (skip rest) (item :: found)
      | ']' :: rest => pure (.list (item :: found).reverse, rest)
      | _ => throw .malformed

/-- The fields of an object from the next one on. -/
def fields (fuel : Nat) (cs : List Char) (found : Fields) : Read :=
  match fuel with
  | 0 => throw .malformed
  | fuel + 1 =>
    match cs with
    | '"' :: rest =>
      match text? (fuel + 1) rest [] with
      | none => throw .malformed
      | some (key, rest) =>
        match skip rest with
        | ':' :: rest =>
          match value fuel (skip rest) with
          | .error failure => throw failure
          | .ok (value, rest) =>
            let found := found.put key value
            match skip rest with
            | ',' :: rest => fields fuel (skip rest) found
            | '\x7d' :: rest => pure (.object found, rest)
            | _ => throw .malformed
        | _ => throw .malformed
    | _ => throw .malformed

end

end Reader

namespace Document

def read (s : String) : Except ReadFailure Document :=
  let cs := s.toList
  match Reader.value (cs.length + 1) (Reader.skip cs) with
  | .ok (d, rest) => if (Reader.skip rest).isEmpty then pure d else throw .malformed
  | .error failure => throw failure

def read? (s : String) : Option Document :=
  (read s).toOption

end Document

end InteractiveFiction
