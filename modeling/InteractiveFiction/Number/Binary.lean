/-!
What a double stands for: a signed multiple of a power of two, an infinity, or no number.
Every exact rule on numbers (order, truncation, shortest text) is stated on this reading.

* `power`: a power whose exponent has a sign.  The factor `base ^ e` of a fraction is `power base e`
  in the numerator and `power base (-e)` in the denominator; one of the two is one.
* `Binary.ofFloat`, `Binary.ofInt`: the reading of a double and of an integer.
* `Binary.compare?`: the exact order, with no answer when one side is no number.
* `Binary.truncate?`, `Binary.floor?`: the integers next to a finite value.
-/

set_option autoImplicit false

namespace InteractiveFiction

/-- The power of a base, one when the exponent is negative. -/
def power (base : Nat) (exponent : Int) : Nat :=
  Nat.pow base exponent.toNat

/-- A finite value is `± mantissa * 2 ^ exponent`. -/
inductive Binary where
  | finite (negative : Bool) (mantissa : Nat) (exponent : Int)
  | infinite (negative : Bool)
  | notANumber
deriving DecidableEq, Repr

namespace Binary

/-! ## Readings -/

def ofBits (bits : Nat) : Binary :=
  let negative := decide (power 2 63 ≤ bits)
  let exponent : Nat := bits / power 2 52 % power 2 11
  let fraction : Nat := bits % power 2 52
  if exponent = 2047 then
    if fraction = 0 then .infinite negative else .notANumber
  else if exponent = 0 then
    .finite negative fraction (-1074)
  else
    .finite negative (fraction + power 2 52) ((exponent : Int) - 1075)

def ofFloat (x : Float) : Binary :=
  ofBits x.toBits.toNat

def ofInt (n : Int) : Binary :=
  .finite (decide (n < 0)) n.natAbs 0

/-! ## Order -/

def signed (negative : Bool) (magnitude : Nat) : Int :=
  if negative then -(magnitude : Int) else magnitude

/-- The mantissa of a finite value written with a smaller exponent. -/
def atExponent (negative : Bool) (mantissa : Nat) (exponent lower : Int) : Int :=
  signed negative (mantissa * power 2 (exponent - lower))

/-- The exact order; the two zeros are equal and no number compares with nothing. -/
def compare? : Binary → Binary → Option Ordering
  | .notANumber, _ => none
  | _, .notANumber => none
  | .infinite s, .infinite t => some (if s = t then .eq else if s then .lt else .gt)
  | .infinite s, .finite .. => some (if s then .lt else .gt)
  | .finite .., .infinite t => some (if t then .gt else .lt)
  | .finite s m e, .finite t n f =>
    let lower := min e f
    some (compare (atExponent s m e lower) (atExponent t n f lower))

/-! ## Integers next to a value -/

/-- The integer reached by dropping the fraction. -/
def truncate? : Binary → Option Int
  | .finite negative mantissa exponent =>
    if 0 ≤ exponent then
      some (signed negative (mantissa * power 2 exponent))
    else
      some (signed negative (mantissa / power 2 (-exponent)))
  | _ => none

/-- The greatest integer that is not above the value. -/
def floor? : Binary → Option Int
  | .finite negative mantissa exponent =>
    if 0 ≤ exponent then
      some (signed negative (mantissa * power 2 exponent))
    else
      some (signed negative mantissa / (power 2 (-exponent) : Int))
  | _ => none

end Binary

end InteractiveFiction
