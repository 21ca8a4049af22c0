/-!
White space: the characters that separate words and are dropped at the ends of a line.

* `isBlank`: the white space of Unicode together with the four information separators.
* `isNumericBlank`: what may surround a written number; of ASCII only the space and the
  controls 9 to 13.
-/

set_option autoImplicit false

namespace InteractiveFiction

/-- First and last code points of each run of white space. -/
def blankRanges : List (Nat × Nat) := [
  (9, 13), (28, 32), (133, 133), (160, 160), (5760, 5760), (8192, 8202), (8232, 8233),
  (8239, 8239), (8287, 8287), (12288, 12288)]

def inRanges (ranges : List (Nat × Nat)) (c : Char) : Bool :=
  ranges.any fun (first, last) => decide (first ≤ c.toNat) && decide (c.toNat ≤ last)

def isBlank (c : Char) : Bool :=
  inRanges blankRanges c

def isNumericBlank (c : Char) : Bool :=
  if c.toNat < 127 then (9 ≤ c.toNat && c.toNat ≤ 13) || c == ' ' else isBlank c

/-- The text without the characters of a class at its two ends. -/
def trimEnds (drop : Char → Bool) (cs : List Char) : List Char :=
  ((cs.dropWhile drop).reverse.dropWhile drop).reverse

def trimBlank (s : String) : String :=
  String.ofList (trimEnds isBlank s.toList)

end InteractiveFiction
