import InteractiveFiction.Decimal.Reading
import InteractiveFiction.Decimal.Shortest
import InteractiveFiction.Number.Rounding
import InteractiveFiction.Number

/-!
How a decimal is laid out: with a point in place, or with an exponent.

* `NumberLayout.full`: shortest digits, always with a point or an exponent.  Documents use it.
* `NumberLayout.brief`: six significant digits, no zeros at the end.  Time limits use it.
-/

set_option autoImplicit false

namespace InteractiveFiction

structure NumberLayout where
  /-- Numbers of this decimal exponent and above are written with an exponent. -/
  limit : Int
  /-- Whether a whole number keeps `.0`. -/
  keepsPoint : Bool

namespace NumberLayout

def full : NumberLayout := ⟨16, true⟩

def brief : NumberLayout := ⟨6, false⟩

/-- At least two digits, after a sign. -/
def exponentText (exponent : Int) : String :=
  let digits := toString exponent.natAbs
  (if exponent < 0 then "-" else "+") ++ (if digits.length < 2 then "0" ++ digits else digits)

def zeros (count : Nat) : String :=
  String.ofList (List.replicate count '0')

/-- The text of a positive decimal whose coefficient has no zero at its end. -/
def layOut (style : NumberLayout) (d : Decimal) : String :=
  let digits := (toString d.coefficient).toList
  let exponent : Int := d.exponent + digits.length - 1
  if -4 ≤ exponent ∧ exponent < style.limit then
    if exponent < 0 then
      "0." ++ zeros (-exponent - 1).toNat ++ String.ofList digits
    else
      let whole := exponent.toNat + 1
      let head := String.ofList (digits.take whole) ++ zeros (whole - digits.length)
      let tail := digits.drop whole
      if tail.isEmpty then head ++ (if style.keepsPoint then ".0" else "")
      else head ++ "." ++ String.ofList tail
  else
    let tail := digits.drop 1
    String.ofList (digits.take 1) ++ (if tail.isEmpty then "" else "." ++ String.ofList tail)
      ++ "e" ++ exponentText exponent

end NumberLayout

/-! ## Texts of numbers -/

/-- A positive value rounded to `places` significant digits, a half going to the even digit. -/
def Decimal.significant (places : Nat) (mantissa : Nat) (exponent : Int) : Decimal :=
  let numerator := mantissa * power 2 exponent
  let denominator := power 2 (-exponent)
  let unit := Decimal.decade numerator denominator - places + 1
  let coefficient :=
    Rounding.divideHalfEven (numerator * power 10 (-unit)) (denominator * power 10 unit)
  Decimal.trim (places + 1) ⟨coefficient, unit⟩

namespace Binary

def describe (style : NumberLayout) (digits : Nat → Int → Decimal) : Binary → String
  | .notANumber => "nan"
  | .infinite negative => if negative then "-inf" else "inf"
  | .finite negative mantissa exponent =>
    let magnitude :=
      if mantissa = 0 then (if style.keepsPoint then "0.0" else "0")
      else style.layOut (digits mantissa exponent)
    if negative then "-" ++ magnitude else magnitude

end Binary

namespace Number

/-- The least number with more digits than can be read. -/
@[irreducible] def writingLimit : Nat :=
  Nat.pow 10 digitLimit

/-- Doubles can always be written, integers if they are not too long. -/
def isWritable : Number → Bool
  | .int n => decide (n.natAbs < writingLimit)
  | .float _ => true

/-- Integers in full, doubles by their shortest digits. -/
def text : Number → String
  | .int n => toString n
  | .float x => (Binary.ofFloat x).describe .full Decimal.shortest

def brief (a : Number) : String :=
  (Binary.ofFloat a.toFloat).describe .brief (Decimal.significant 6)

end Number

end InteractiveFiction
