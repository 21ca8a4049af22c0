import InteractiveFiction.Number

/-!
Points in time: seconds since the start of 1970, universal time, and their texts.

A text gives date and time, six digits of microseconds when they are not zero, and the offset
`+00:00`; texts of years 1 to 9999 are ordered as the instants are.
-/

set_option autoImplicit false

namespace InteractiveFiction

/-- Seconds since the start of 1970. -/
abbrev Instant := Float

namespace Timestamp

/-- The whole microseconds nearest to an instant, a half going to the even one. -/
def microseconds (seconds : Instant) : Int :=
  match (Binary.ofFloat seconds).truncate? with
  | none => 0
  | some whole =>
    let scaled := (seconds - Rounding.ofInt whole) * 1000000.0
    match Binary.ofFloat scaled with
    | .finite negative mantissa exponent =>
      let part := Rounding.divideHalfEven (mantissa * power 2 exponent)
        (power 2 (-exponent))
      whole * 1000000 + Binary.signed negative part
    | _ => whole * 1000000

structure Date where
  year : Int
  month : Int
  day : Int
deriving DecidableEq, Repr

/-- The date a number of days after the first of January 1970.  Years are counted from March, in
eras of 400 years. -/
def date (days : Int) : Date :=
  let shifted := days + 719468
  let era := shifted / 146097
  let dayOfEra := shifted % 146097
  let yearOfEra :=
    (dayOfEra - dayOfEra / 1460 + dayOfEra / 36524 - dayOfEra / 146096) / 365
  let dayOfYear := dayOfEra - (365 * yearOfEra + yearOfEra / 4 - yearOfEra / 100)
  let monthFromMarch := (5 * dayOfYear + 2) / 153
  let month := if monthFromMarch < 10 then monthFromMarch + 3 else monthFromMarch - 9
  { year := yearOfEra + era * 400 + (if month ≤ 2 then 1 else 0)
    month
    day := dayOfYear - (153 * monthFromMarch + 2) / 5 + 1 }

/-- Decimal digits with zeros in front, at least `width` of them. -/
def padded (width : Nat) (n : Int) : String :=
  let digits := toString n.toNat
  String.ofList (List.replicate (width - digits.length) '0') ++ digits

def ofMicroseconds (instant : Int) : String :=
  let seconds := instant / 1000000
  let fraction := instant % 1000000
  let day := date (seconds / 86400)
  let second := seconds % 86400
  padded 4 day.year ++ "-" ++ padded 2 day.month ++ "-" ++ padded 2 day.day ++ "T" ++
    padded 2 (second / 3600) ++ ":" ++ padded 2 (second / 60 % 60) ++ ":" ++
    padded 2 (second % 60) ++
    (if fraction = 0 then "" else "." ++ padded 6 fraction) ++ "+00:00"

def text (seconds : Instant) : String :=
  ofMicroseconds (microseconds seconds)

def hour (seconds : Instant) : Nat :=
  (microseconds seconds / 1000000 % 86400 / 3600).toNat

end Timestamp

end InteractiveFiction
