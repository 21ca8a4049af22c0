import InteractiveFiction.Number.Binary

/-!
The double nearest to a quotient of integers, ties to the even mantissa.  Reading a decimal,
widening an integer and dividing two integers are all this one function.
-/

set_option autoImplicit false

namespace InteractiveFiction

namespace Rounding

/-- `numerator / denominator` to the nearest integer, a half going to the even neighbour. -/
def divideHalfEven (numerator denominator : Nat) : Nat :=
  let quotient := numerator / denominator
  let twice := 2 * (numerator % denominator)
  if twice < denominator then quotient
  else if denominator < twice then quotient + 1
  else if quotient % 2 = 0 then quotient else quotient + 1

/-- The exponent at which a positive quotient has a mantissa of 53 bits, or the least exponent
a double has. -/
def exponentFor (numerator denominator : Nat) : Int :=
  let guess : Int := (numerator.log2 : Int) - denominator.log2 - 52
  let scaledUp := numerator * power 2 (-guess)
  let scaledDown := denominator * power 2 guess
  let exact := if scaledUp < scaledDown * power 2 52 then guess - 1 else guess
  max exact (-1074)

/-- The magnitude bits of the double nearest to a positive quotient, infinity above the range. -/
def magnitudeBits (numerator denominator : Nat) : Nat :=
  if numerator = 0 then 0
  else
    let exponent := exponentFor numerator denominator
    let mantissa :=
      divideHalfEven (numerator * power 2 (-exponent)) (denominator * power 2 exponent)
    min ((exponent + 1074).toNat * power 2 52 + mantissa) (2047 * power 2 52)

/-- The double nearest to `± numerator / denominator`. -/
def nearest (negative : Bool) (numerator denominator : Nat) : Float :=
  Float.ofBits (UInt64.ofNat
    (magnitudeBits numerator denominator + if negative then power 2 63 else 0))

def ofInt (n : Int) : Float :=
  nearest (decide (n < 0)) n.natAbs 1

/-- The double nearest to `± coefficient * 10 ^ exponent`.  An exponent so large that no double
could show it is cut off first. -/
def ofDecimal (negative : Bool) (coefficient : Nat) (exponent : Int) : Float :=
  if coefficient = 0 then
    nearest negative 0 1
  else if 310 < exponent then
    nearest negative (power 10 310) 1
  else if exponent + (Nat.log2 coefficient / 3 + 1 : Nat) < -330 then
    nearest negative 0 1
  else
    nearest negative (coefficient * power 10 exponent) (power 10 (-exponent))

end Rounding

end InteractiveFiction
