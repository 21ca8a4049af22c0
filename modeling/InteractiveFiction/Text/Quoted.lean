import InteractiveFiction.Text.Printable

/-!
Quoted text: a text in single quotes, or in double quotes when it holds single quotes only.
The quote in use, the backslash and what cannot be shown are escaped.
-/

set_option autoImplicit false

namespace InteractiveFiction

/-- A number in lower-case hexadecimal digits, at least `width` of them. -/
def hexText (width n : Nat) : String :=
  let digits := Nat.toDigits 16 n
  String.ofList (List.replicate (width - digits.length) '0' ++ digits)

namespace Quoted

def quoteFor (cs : List Char) : Char :=
  if cs.contains '\'' && !cs.contains '"' then '"' else '\''

def escape (quote c : Char) : String :=
  if c == quote || c == '\\' then String.ofList ['\\', c]
  else if c == '\t' then "\\t"
  else if c == '\n' then "\\n"
  else if c == '\r' then "\\r"
  else if isPrintable c then c.toString
  else if c.toNat < 256 then "\\x" ++ hexText 2 c.toNat
  else if c.toNat < 65536 then "\\u" ++ hexText 4 c.toNat
  else "\\U" ++ hexText 8 c.toNat

def encode (s : String) : String :=
  let quote := quoteFor s.toList
  quote.toString ++ String.join (s.toList.map (escape quote)) ++ quote.toString

end Quoted

end InteractiveFiction
