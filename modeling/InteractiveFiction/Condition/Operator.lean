import InteractiveFiction.Decimal.Reading
import InteractiveFiction.Document

/-!
Comparisons of a value of the state with an authored target.

A numeric comparison reads both sides as numbers, texts too, and a truth value never is one.
Where two sides cannot be compared the answer is no; `nexists` and `nin` are the exceptions that
a missing value satisfies.
-/

set_option autoImplicit false

namespace InteractiveFiction

inductive Operator where
  | eq | ne | gt | gte | lt | lte | isIn | notIn | present | absent
deriving DecidableEq, Repr

namespace Operator

def name : Operator → String
  | .eq => "eq"
  | .ne => "ne"
  | .gt => "gt"
  | .gte => "gte"
  | .lt => "lt"
  | .lte => "lte"
  | .isIn => "in"
  | .notIn => "nin"
  | .present => "exists"
  | .absent => "nexists"

def all : List Operator :=
  [.eq, .ne, .gt, .gte, .lt, .lte, .isIn, .notIn, .present, .absent]

def ofDocument? (d : Document) : Option Operator :=
  d.text?.bind fun s => all.find? fun operator => operator.name == s

end Operator

namespace Comparison

/-- A side of a numeric comparison, null when it is not a number. -/
def numeric : Document → Document
  | .number n => .number n
  | .text s =>
    match readFloat? s with
    | some x => .float x
    | none => .null
  | _ => .null

/-- Equality that keeps truth values and numbers apart. -/
def same (left right : Document) : Bool :=
  left.isBool == right.isBool && left.equals right

/-- Whether the order of two sides is one of those wanted; truth values have none. -/
def ordered (left right : Document) (wanted : Ordering → Bool) : Bool :=
  !left.isBool && !right.isBool && (left.order? right).any wanted

def isNull : Document → Bool
  | .null => true
  | _ => false

/-- Whether a value is in a list of targets; null is in none. -/
def among (value : Document) (targets : List Document) : Bool :=
  !isNull value && targets.any (same value)

/-- The comparison of two sides that are ready for it. -/
def plain (value target : Document) : Operator → Bool
  | .eq => same value target
  | .ne => !same value target
  | .gt => ordered value target (· == .gt)
  | .gte => ordered value target (· != .lt)
  | .lt => ordered value target (· == .lt)
  | .lte => ordered value target (· != .gt)
  | _ => false

def membership (value target : Document) (asNumbers : Bool) : Option Bool :=
  match target with
  | .list targets =>
    some (if asNumbers then among (numeric value) (targets.map numeric)
      else among value targets)
  | _ => none

end Comparison

open Comparison in
/-- Whether `value` stands in the relation of the operator to `target`. -/
def Operator.holds (operator : Operator) (value target : Document) (asNumbers : Bool) : Bool :=
  match operator with
  | .present => !isNull value
  | .absent => isNull value
  | .isIn => (membership value target asNumbers).getD false
  | .notIn =>
    match membership value target asNumbers with
    | some found => !found
    | none => false
  | operator =>
    if asNumbers then
      let left := numeric value
      let right := numeric target
      !isNull left && !isNull right && plain left right operator
    else plain value target operator

end InteractiveFiction
