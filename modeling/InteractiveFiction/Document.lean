import InteractiveFiction.Decimal.Layout
import InteractiveFiction.Text.Quoted

/-!
Documents: the values stories, saves and requests are written in.

* `Document`: null, truth values, numbers, texts, lists, and objects whose fields keep their order.
* `Document.display` and `Document.quoted`: a value in running text and inside another value,
  however long its integers; `Document.isWritable` says whether they can be written.
* `Document.equals` and `Document.order?`: equality and order by value, where `true` counts as `1`
  and an integer equals the double of its value.
-/

set_option autoImplicit false

namespace InteractiveFiction

inductive Document where
  | null
  | bool (b : Bool)
  | number (n : Number)
  | text (s : String)
  | list (items : List Document)
  | object (fields : List (String × Document))

/-- The fields of an object, in order. -/
abbrev Fields := List (String × Document)

namespace Document

instance : Inhabited Document := ⟨.null⟩

instance : Coe String Document := ⟨.text⟩

def int (n : Int) : Document := .number (.int n)

def float (x : Float) : Document := .number (.float x)

/-! ## Identity -/

mutual

def decide? (a b : Document) : Decidable (a = b) :=
  match a, b with
  | .null, .null => .isTrue rfl
  | .bool a, .bool b => decidable_of_iff (a = b) (by simp)
  | .number a, .number b => decidable_of_iff (a = b) (by simp)
  | .text a, .text b => decidable_of_iff (a = b) (by simp)
  | .list a, .list b =>
    match decideList? a b with
    | .isTrue h => .isTrue (by rw [h])
    | .isFalse h => .isFalse (by simpa using h)
  | .object a, .object b =>
    match decideFields? a b with
    | .isTrue h => .isTrue (by rw [h])
    | .isFalse h => .isFalse (by simpa using h)
  | .null, .bool _ | .null, .number _ | .null, .text _ | .null, .list _ | .null, .object _
  | .bool _, .null | .bool _, .number _ | .bool _, .text _ | .bool _, .list _ | .bool _, .object _
  | .number _, .null | .number _, .bool _ | .number _, .text _ | .number _, .list _
  | .number _, .object _
  | .text _, .null | .text _, .bool _ | .text _, .number _ | .text _, .list _ | .text _, .object _
  | .list _, .null | .list _, .bool _ | .list _, .number _ | .list _, .text _ | .list _, .object _
  | .object _, .null | .object _, .bool _ | .object _, .number _ | .object _, .text _
  | .object _, .list _ => .isFalse (by simp)

def decideList? (a b : List Document) : Decidable (a = b) :=
  match a, b with
  | [], [] => .isTrue rfl
  | x :: xs, y :: ys =>
    match decide? x y, decideList? xs ys with
    | .isTrue h, .isTrue hs => .isTrue (by rw [h, hs])
    | .isFalse h, _ => .isFalse (by simp [h])
    | _, .isFalse hs => .isFalse (by simp [hs])
  | [], _ :: _ | _ :: _, [] => .isFalse (by simp)

def decideFields? (a b : List (String × Document)) : Decidable (a = b) :=
  match a, b with
  | [], [] => .isTrue rfl
  | (k, x) :: xs, (l, y) :: ys =>
    if hk : k = l then
      match decide? x y, decideFields? xs ys with
      | .isTrue h, .isTrue hs => .isTrue (by rw [hk, h, hs])
      | .isFalse h, _ => .isFalse (by simp [h])
      | _, .isFalse hs => .isFalse (by simp [hs])
    else .isFalse (by simp [hk])
  | [], _ :: _ | _ :: _, [] => .isFalse (by simp)

end

instance : DecidableEq Document := decide?

/-! ## Shape -/

/-- The name of a value's kind, as messages give it. -/
def kind : Document → String
  | .null => "NoneType"
  | .bool _ => "bool"
  | .number (.int _) => "int"
  | .number (.float _) => "float"
  | .text _ => "str"
  | .list _ => "list"
  | .object _ => "dict"

/-- Null, false, zero and what is empty count as absent. -/
def isTruthy : Document → Bool
  | .null => false
  | .bool b => b
  | .number n => !n.isZero
  | .text s => !s.isEmpty
  | .list items => !items.isEmpty
  | .object fields => !fields.isEmpty

def isBool : Document → Bool
  | .bool _ => true
  | _ => false

/-- Whether a value can be looked up as a key: lists and objects cannot. -/
def isKey : Document → Bool
  | .list _ | .object _ => false
  | _ => true

/-- A number as rules see it, truth values included. -/
def number? : Document → Option Number
  | .bool b => some (.int (if b then 1 else 0))
  | .number n => some n
  | _ => none

def text? : Document → Option String
  | .text s => some s
  | _ => none

/-! ## Fields -/

/-- The value of a field of an object; nothing on any other value. -/
def field? (d : Document) (key : String) : Option Document :=
  match d with
  | .object fields => fields.lookup key
  | _ => none

/-- The value of a field, the default when there is no such field. -/
def getD (d : Document) (key : String) (default : Document) : Document :=
  (d.field? key).getD default

/-- The value of a field, null when there is no such field. -/
def get (d : Document) (key : String) : Document :=
  d.getD key .null

def orElse (d : Option Document) (default : Document) : Document :=
  match d with
  | some d => if d.isTruthy then d else default
  | none => default

def ofOption : Option Document → Document
  | some d => d
  | none => .null

def toOption : Document → Option Document
  | .null => none
  | d => some d

/-! ## Text of a value -/

mutual

/-- A value as it stands inside another: texts quoted, lists in brackets, objects in braces. -/
def quoted : Document → String
  | .null => "None"
  | .bool b => if b then "True" else "False"
  | .number n => n.text
  | .text s => Quoted.encode s
  | .list items => "[" ++ ", ".intercalate (quotedItems items) ++ "]"
  | .object fields => "\x7b" ++ ", ".intercalate (quotedFields fields) ++ "\x7d"

def quotedItems : List Document → List String
  | [] => []
  | d :: ds => d.quoted :: quotedItems ds

def quotedFields : List (String × Document) → List String
  | [] => []
  | (key, d) :: rest => (Quoted.encode key ++ ": " ++ d.quoted) :: quotedFields rest

end

/-- A value in running text: a text stands for itself. -/
def display : Document → String
  | .text s => s
  | d => d.quoted

/-! ## What can be written -/

mutual

/-- Whether every integer in a value can be written. -/
def isWritable : Document → Bool
  | .number n => n.isWritable
  | .list items => areWritable items
  | .object fields => hasWritableFields fields
  | _ => true

def areWritable : List Document → Bool
  | [] => true
  | d :: ds => d.isWritable && areWritable ds

def hasWritableFields : List (String × Document) → Bool
  | [] => true
  | (_, d) :: rest => d.isWritable && hasWritableFields rest

end

/-! ## Comparison by value -/

mutual

def equals : Document → Document → Bool
  | .null, .null => true
  | .text a, .text b => a == b
  | .list a, .list b => equalsList a b
  | .object a, .object b => a.length == b.length && equalsFields a b
  | .bool a, b =>
    match b.number? with
    | some n => (Number.int (if a then 1 else 0)).equals n
    | none => false
  | .number a, b =>
    match b.number? with
    | some n => a.equals n
    | none => false
  | _, _ => false

def equalsList : List Document → List Document → Bool
  | [], [] => true
  | a :: as, b :: bs => a.equals b && equalsList as bs
  | _, _ => false

/-- Whether every field of the first object is in the second, with an equal value. -/
def equalsFields : List (String × Document) → List (String × Document) → Bool
  | [], _ => true
  | (key, a) :: rest, other =>
    (match other.lookup key with
      | some b => a.equals b
      | none => false) && equalsFields rest other

end

mutual

/-- Numbers by value, texts by code points, lists by their first difference.  Values of other
kinds, and what is no number, have no order. -/
def order? : Document → Document → Option Ordering
  | .text a, .text b => some (compare a b)
  | .list a, .list b => orderList? a b
  | .bool a, b => b.number?.bind fun n => (Number.int (if a then 1 else 0)).compare? n
  | .number a, b => b.number?.bind fun n => a.compare? n
  | _, _ => none

def orderList? : List Document → List Document → Option Ordering
  | [], [] => some .eq
  | [], _ :: _ => some .lt
  | _ :: _, [] => some .gt
  | a :: as, b :: bs => if a.equals b then orderList? as bs else a.order? b

end

mutual

/-- Whether two values may be asked which is less: what is no number may be, and is neither. -/
def isComparable : Document → Document → Bool
  | .text _, .text _ => true
  | .list a, .list b => areComparable a b
  | a, b => a.number?.isSome && b.number?.isSome

def areComparable : List Document → List Document → Bool
  | a :: as, b :: bs => if a.equals b then areComparable as bs else a.isComparable b
  | _, _ => true

end

end Document

end InteractiveFiction
