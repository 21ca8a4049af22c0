import InteractiveFiction.Number.Binary
import InteractiveFiction.Number.Rounding

/-!
Numbers of documents and rules: integers of any size beside doubles.

The two kinds stay apart in texts (`1` and `1.0`), and compare by value: an integer is never
rounded to be compared with a double.
-/

set_option autoImplicit false

namespace InteractiveFiction

inductive Number where
  | int (n : Int)
  | float (x : Float)
deriving DecidableEq

namespace Number

instance : Inhabited Number := ⟨.int 0⟩

instance (n : Nat) : OfNat Number n := ⟨.int n⟩

instance : Coe Int Number := ⟨.int⟩

/-! ## Order -/

def toBinary : Number → Binary
  | .int n => Binary.ofInt n
  | .float x => Binary.ofFloat x

def compare? (a b : Number) : Option Ordering :=
  a.toBinary.compare? b.toBinary

/-- Equality by value: `1` equals `1.0`, and what is no number equals nothing. -/
def equals (a b : Number) : Bool :=
  a.compare? b == some .eq

def lt (a b : Number) : Bool :=
  a.compare? b == some .lt

def le (a b : Number) : Bool :=
  a.lt b || a.equals b

/-- The first of two numbers unless the second is greater. -/
def max (a b : Number) : Number :=
  if a.lt b then b else a

/-- The first of two numbers unless the second is smaller. -/
def min (a b : Number) : Number :=
  if b.lt a then b else a

def clamp (value low high : Number) : Number :=
  low.max (high.min value)

def isZero (a : Number) : Bool :=
  a.equals 0

/-! ## Arithmetic -/

def toFloat : Number → Float
  | .int n => Rounding.ofInt n
  | .float x => x

/-- Whether a number is an integer, or a double with a value. -/
def truncate? (a : Number) : Option Int :=
  a.toBinary.truncate?

def add : Number → Number → Number
  | .int a, .int b => .int (a + b)
  | a, b => .float (a.toFloat + b.toFloat)

def sub : Number → Number → Number
  | .int a, .int b => .int (a - b)
  | a, b => .float (a.toFloat - b.toFloat)

def mul : Number → Number → Number
  | .int a, .int b => .int (a * b)
  | a, b => .float (a.toFloat * b.toFloat)

def neg : Number → Number
  | .int a => .int (-a)
  | .float x => .float (-x)

instance : Add Number := ⟨add⟩
instance : Sub Number := ⟨sub⟩
instance : Mul Number := ⟨mul⟩
instance : Neg Number := ⟨neg⟩

/-- Half of a number, rounded down to a whole one of the same kind. -/
def halfDown : Number → Number
  | .int a => .int (a / 2)
  | .float x =>
    match (Binary.ofFloat (x / 2.0)).floor? with
    | some n => .float (if n = 0 then x / 2.0 * 0.0 else Rounding.ofInt n)
    | none => .float (0.0 / 0.0)

end Number

end InteractiveFiction
