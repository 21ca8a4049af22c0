import InteractiveFiction.Number.Binary

/-!
The fewest decimal digits that read back as a given double, and of those the nearest to it.

A positive double `m * 2 ^ e` is read back from every real between its two midpoints, the midpoints
too when `m` is even.  For one digit, two digits and so on the two neighbours of the double on that
decimal grid are tried; the first grid with a neighbour in the interval gives the answer.
-/

set_option autoImplicit false

namespace InteractiveFiction

/-- The positive number `coefficient * 10 ^ exponent`. -/
structure Decimal where
  coefficient : Nat
  exponent : Int
deriving DecidableEq, Repr

namespace Decimal

/-- The greatest `k` with `10 ^ k ≤ numerator / denominator`. -/
def decade (numerator denominator : Nat) : Int :=
  let bits : Int := (numerator.log2 : Int) - denominator.log2
  let guess := (bits - 1) * 30103 / 100000
  let reached (k : Int) : Bool :=
    denominator * power 10 k ≤ numerator * power 10 (-k)
  if reached (guess + 1) then guess + 1
  else if reached guess then guess
  else guess - 1

/-- The reals that are read back as one double, over a common denominator. -/
structure Interval where
  low : Nat
  value : Nat
  high : Nat
  denominator : Nat
  closed : Bool

def Interval.around (mantissa : Nat) (exponent : Int) : Interval :=
  let up := power 2 (exponent - 2)
  let below := if mantissa = power 2 52 ∧ -1074 < exponent then 1 else 2
  { low := (4 * mantissa - below) * up
    value := 4 * mantissa * up
    high := (4 * mantissa + 2) * up
    denominator := power 2 (2 - exponent)
    closed := mantissa % 2 = 0 }

/-- Whether `c * 10 ^ u` lies in the interval. -/
def Interval.admits (i : Interval) (u : Int) (c : Nat) : Bool :=
  let point := c * power 10 u * i.denominator
  let scale := power 10 (-u)
  if i.closed then
    decide (i.low * scale ≤ point) && decide (point ≤ i.high * scale)
  else
    decide (i.low * scale < point) && decide (point < i.high * scale)

/-- The admitted neighbour on the grid of `10 ^ u`; of two the nearer, of two as near the even. -/
def Interval.onGrid? (i : Interval) (u : Int) : Option Decimal :=
  let numerator := i.value * power 10 (-u)
  let denominator := i.denominator * power 10 u
  let c := numerator / denominator
  let twice := 2 * (numerator % denominator)
  let lower := i.admits u c
  let upper := i.admits u (c + 1)
  if lower && upper then
    let nearer := decide (twice < denominator) || (twice == denominator && c % 2 == 0)
    some ⟨if nearer then c else c + 1, u⟩
  else if lower then some ⟨c, u⟩
  else if upper then some ⟨c + 1, u⟩
  else none

/-- The same number without zeros at the end of the coefficient, at most `fuel` of them. -/
def trim (fuel : Nat) (d : Decimal) : Decimal :=
  match fuel with
  | 0 => d
  | fuel + 1 =>
    if d.coefficient % 10 = 0 ∧ d.coefficient ≠ 0 then
      trim fuel ⟨d.coefficient / 10, d.exponent + 1⟩
    else d

/-- The shortest decimal that reads back as `mantissa * 2 ^ exponent`, for a positive mantissa. -/
def shortest (mantissa : Nat) (exponent : Int) : Decimal :=
  let i := Interval.around mantissa exponent
  let k := decade i.value i.denominator
  let found := (List.range 17).findSome? fun (n : Nat) => i.onGrid? (k - n)
  trim 20 (found.getD ⟨mantissa, exponent⟩)

end Decimal

end InteractiveFiction
