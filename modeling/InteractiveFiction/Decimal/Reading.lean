import InteractiveFiction.Number
import InteractiveFiction.Text.Digit

/-!
Numbers read from text.

* `readInt`: blanks, a sign, decimal digits of any script with single underscores between them.
* `readFloat?`: the same with a fraction and an exponent, or `inf`, `infinity`, `nan` in any case.
-/

set_option autoImplicit false

namespace InteractiveFiction

/-- An integer of more digits than this is refused. -/
def digitLimit : Nat := 4300

/-- The value of a run of digits, most significant first. -/
def digitsValue (digits : List Nat) : Nat :=
  digits.foldl (fun value digit => 10 * value + digit) 0

namespace Reading

def isDigitOrBar (c : Char) : Bool :=
  isDecimalDigit c || c == '_'

/-- The digits of a run in which every underscore stands between two digits. -/
def digits? : List Char → Option (List Nat)
  | [] => none
  | [c] => (decimalDigit? c).map fun d => [d]
  | c :: '_' :: rest => do
    let d ← decimalDigit? c
    let ds ← digits? rest
    pure (d :: ds)
  | c :: rest => do
    let d ← decimalDigit? c
    let ds ← digits? rest
    pure (d :: ds)

/-- Splits off a leading sign; the flag says whether it was a minus. -/
def splitSign : List Char → Bool × List Char
  | '-' :: rest => (true, rest)
  | '+' :: rest => (false, rest)
  | rest => (false, rest)

def withSign (negative : Bool) (magnitude : Nat) : Int :=
  if negative then -(magnitude : Int) else magnitude

end Reading

open Reading

inductive IntReading where
  | value (n : Int)
  | malformed
  | tooLong (digits : Nat)
deriving DecidableEq

def readInt (s : String) : IntReading :=
  let (negative, body) := splitSign (trimEnds isNumericBlank s.toList)
  match digits? body with
  | none => .malformed
  | some ds =>
    if digitLimit < ds.length then .tooLong ds.length
    else .value (withSign negative (digitsValue ds))

namespace Reading

/-- Reads `[eE][sign]digits`, or nothing at all. -/
def exponent? : List Char → Option Int
  | [] => some 0
  | c :: rest =>
    if c == 'e' || c == 'E' then
      let (negative, body) := splitSign rest
      (digits? body).map fun ds => withSign negative (digitsValue ds)
    else none

/-- A run of digits that may be absent. -/
def run? (cs : List Char) : Option (List Nat) :=
  if cs.isEmpty then some [] else digits? cs

def asciiLower (c : Char) : Char :=
  if 'A' ≤ c && c ≤ 'Z' then Char.ofNat (c.toNat + 32) else c

/-- An unsigned number with at least one digit before or after the point. -/
def magnitude? (negative : Bool) (cs : List Char) : Option Float := do
  let whole ← run? (cs.takeWhile isDigitOrBar)
  let rest := cs.dropWhile isDigitOrBar
  let (fraction, rest) ←
    match rest with
    | '.' :: rest => do
      let fraction ← run? (rest.takeWhile isDigitOrBar)
      pure (fraction, rest.dropWhile isDigitOrBar)
    | rest => pure ([], rest)
  guard (!(whole.isEmpty && fraction.isEmpty))
  let exponent ← exponent? rest
  pure (Rounding.ofDecimal negative (digitsValue (whole ++ fraction))
    (exponent - fraction.length))

def word? (negative : Bool) (cs : List Char) : Option Float :=
  let word := String.ofList (cs.map asciiLower)
  if word == "inf" || word == "infinity" then
    some (if negative then -(1.0 / 0.0) else 1.0 / 0.0)
  else if word == "nan" then some (0.0 / 0.0)
  else none

end Reading

def readFloat? (s : String) : Option Float :=
  let (negative, body) := splitSign (trimEnds isNumericBlank s.toList)
  (magnitude? negative body).orElse fun _ => word? negative body

end InteractiveFiction
