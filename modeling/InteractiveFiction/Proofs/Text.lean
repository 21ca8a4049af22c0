import InteractiveFiction.Document.Reader
import InteractiveFiction.Identity
import InteractiveFiction.Timestamp
import Mathlib.Data.List.Induction
import Mathlib.Data.List.TakeWhile

/-!
Texts of values.

* Texts that are never empty: those of numbers, moments and identities, and of documents that count
  as present.
* `Document.isWritable_of_read`: every document that is read of a text can be written.
-/

set_option autoImplicit false

namespace InteractiveFiction

theorem append_ne_empty_left {s t : String} (h : s ≠ "") : s ++ t ≠ "" := by
  simp [String.append_eq_empty_iff, h]

theorem append_ne_empty_right {s t : String} (h : t ≠ "") : s ++ t ≠ "" := by
  simp [String.append_eq_empty_iff, h]

theorem isTruthy_text_iff {s : String} : (Document.text s).isTruthy = true ↔ s ≠ "" := by
  simp [Document.isTruthy]

/-! ## Numbers -/

theorem toString_int_ne_empty (n : Int) : toString n ≠ "" := by
  cases n with
  | ofNat n => exact Nat.repr_ne_empty
  | negSucc n => exact append_ne_empty_left (by decide)

namespace NumberLayout

theorem layOut_full_ne_empty (d : Decimal) : full.layOut d ≠ "" := by
  unfold layOut
  dsimp only
  split
  · split
    · exact append_ne_empty_left (append_ne_empty_left (by decide))
    · split
      · exact append_ne_empty_right (by decide)
      · exact append_ne_empty_left (append_ne_empty_right (by decide))
  · exact append_ne_empty_left (append_ne_empty_right (by decide))

end NumberLayout

theorem Binary.describe_full_ne_empty (digits : Nat → Int → Decimal) (b : Binary) :
    b.describe .full digits ≠ "" := by
  cases b with
  | notANumber => exact (by decide : "nan" ≠ "")
  | infinite negative =>
    have either : (if negative then "-inf" else "inf") ≠ "" := by cases negative <;> decide
    exact either
  | finite negative mantissa exponent =>
    have magnitude : (if mantissa = 0 then "0.0"
        else NumberLayout.full.layOut (digits mantissa exponent)) ≠ "" := by
      split
      · decide
      · exact NumberLayout.layOut_full_ne_empty _
    cases negative with
    | true => exact append_ne_empty_left (by decide)
    | false => exact magnitude

theorem Number.text_ne_empty (n : Number) : n.text ≠ "" := by
  cases n with
  | int n => exact toString_int_ne_empty n
  | float x => exact Binary.describe_full_ne_empty _ _

/-! ## Documents -/

theorem Quoted.encode_ne_empty (s : String) : Quoted.encode s ≠ "" := by
  apply append_ne_empty_right
  intro none
  have length := congrArg String.length none
  simp at length

theorem Document.quoted_ne_empty (d : Document) : d.quoted ≠ "" := by
  cases d with
  | null => decide
  | bool b => cases b <;> decide
  | number n =>
    rw [quoted]
    exact n.text_ne_empty
  | text s =>
    rw [quoted]
    exact Quoted.encode_ne_empty s
  | list items =>
    rw [quoted]
    exact append_ne_empty_right (by decide)
  | object fields =>
    rw [quoted]
    exact append_ne_empty_right (by decide)

theorem Document.display_ne_empty {d : Document} (h : d.isTruthy = true) : d.display ≠ "" := by
  cases d with
  | text s => exact isTruthy_text_iff.1 h
  | _ => exact quoted_ne_empty _

/-! ## Moments and identities -/

theorem Timestamp.text_ne_empty (seconds : Instant) : Timestamp.text seconds ≠ "" :=
  append_ne_empty_right (by decide)

theorem Identity.uuid_ne_empty (n : Nat) : Identity.uuid n ≠ "" :=
  append_ne_empty_right (by decide)

/-! ## What is read can be written -/

namespace Document

theorem areWritable_iff {ds : List Document} :
    areWritable ds = true ↔ ∀ d ∈ ds, d.isWritable = true := by
  induction ds with
  | nil => simp [areWritable]
  | cons d ds ih => rw [areWritable, Bool.and_eq_true, ih, List.forall_mem_cons]

theorem hasWritableFields_iff {fields : Fields} :
    hasWritableFields fields = true ↔ ∀ field ∈ fields, field.2.isWritable = true := by
  induction fields with
  | nil => simp [hasWritableFields]
  | cons field fields ih =>
    rw [hasWritableFields, Bool.and_eq_true, ih, List.forall_mem_cons]

end Document

namespace Fields

variable {fields : Fields}

theorem isWritable_of_lookup (writable : Document.hasWritableFields fields = true) {key : String}
    {d : Document} (found : List.lookup key fields = some d) : d.isWritable = true := by
  obtain ⟨before, after, all, -⟩ := List.lookup_eq_some_iff.1 found
  exact Document.hasWritableFields_iff.1 writable (key, d) (by simp [all])

theorem isWritable_getD (writable : Document.hasWritableFields fields = true) {d : Document}
    (otherwise : d.isWritable = true) (key : String) : (fields.getD key d).isWritable = true := by
  unfold getD
  cases found : List.lookup key fields with
  | none => exact otherwise
  | some value => exact isWritable_of_lookup writable found

theorem isWritable_getOr (writable : Document.hasWritableFields fields = true) {d : Document}
    (otherwise : d.isWritable = true) (key : String) : (fields.getOr key d).isWritable = true := by
  unfold getOr
  cases found : List.lookup key fields with
  | none => exact otherwise
  | some value =>
    unfold Document.orElse
    dsimp only
    split
    · exact isWritable_of_lookup writable found
    · exact otherwise

theorem hasWritableFields_put {key : String} {d : Document}
    (others : Document.hasWritableFields fields = true) (writable : d.isWritable = true) :
    Document.hasWritableFields (fields.put key d) = true := by
  have each := Document.hasWritableFields_iff.1 others
  refine Document.hasWritableFields_iff.2 fun field mem => ?_
  unfold put at mem
  split at mem
  · obtain ⟨⟨k, v⟩, among, rfl⟩ := List.mem_map.1 mem
    dsimp only
    split
    · exact writable
    · exact each _ among
  · rcases List.mem_append.1 mem with among | last
    · exact each field among
    · rw [List.mem_singleton.1 last]
      exact writable

end Fields

theorem Number.isWritable_int_iff {n : Int} :
    (Number.int n).isWritable = true ↔ n.natAbs < writingLimit :=
  decide_eq_true_iff

namespace Reader

theorem digitsOf_concat (cs : List Char) (c : Char) :
    digitsOf (cs ++ [c]) = 10 * digitsOf cs + (c.toNat - 48) :=
  List.foldl_append

theorem digit_lt {c : Char} (digit : isDigit c = true) : c.toNat - 48 < 10 := by
  have most : c.toNat ≤ '9'.toNat := by
    rw [isDigit, Bool.and_eq_true, decide_eq_true_iff, decide_eq_true_iff] at digit
    exact digit.2
  have nine : '9'.toNat = 57 := rfl
  omega

theorem digitsOf_lt {cs : List Char} (digits : ∀ c ∈ cs, isDigit c = true) :
    digitsOf cs < Nat.pow 10 cs.length := by
  induction cs using List.reverseRecOn with
  | nil => exact Nat.one_pos
  | append_singleton cs c ih =>
    have before := ih fun other mem => digits other (List.mem_append_left _ mem)
    have last := digit_lt (digits c (by simp))
    rw [digitsOf_concat, List.length_append]
    change _ < Nat.pow 10 cs.length * 10
    omega

theorem power_le {m n : Nat} (h : m ≤ n) : Nat.pow 10 m ≤ Nat.pow 10 n :=
  Nat.pow_le_pow_right (by decide) h

theorem digits_of_whole? {cs digits rest : List Char} (h : whole? cs = some (digits, rest)) :
    ∀ c ∈ digits, isDigit c = true := by
  unfold whole? at h
  split at h
  · cases h
    exact List.forall_mem_singleton.2 rfl
  · rename_i first rest' _
    split at h
    · rename_i leading
      cases h
      refine List.forall_mem_cons.2 ⟨?_, fun c mem => List.mem_takeWhile_imp mem⟩
      rw [Bool.and_eq_true, decide_eq_true_iff, decide_eq_true_iff] at leading
      rw [isDigit, Bool.and_eq_true, decide_eq_true_iff, decide_eq_true_iff]
      exact ⟨Char.le_trans (by decide : '0' ≤ '1') leading.1, leading.2⟩
    · cases h
  · cases h

/-- What is read, if anything is, can be written. -/
def Writes (r : Read) : Prop :=
  ∀ d rest, r = .ok (d, rest) → d.isWritable = true

theorem Writes.fail (failure : ReadFailure) : Writes (.error failure) :=
  nofun

theorem Writes.give {d : Document} (writable : d.isWritable = true) (rest : List Char) :
    Writes (.ok (d, rest)) := by
  rintro _ _ ⟨⟩
  exact writable

theorem number_writes (negative : Bool) (cs : List Char) : Writes (number negative cs) := by
  unfold number
  cases read : whole? cs with
  | none => exact .fail _
  | some found =>
    obtain ⟨digits, rest⟩ := found
    dsimp only [wellFormed, bind, Except.bind]
    rcases fraction rest with ⟨point, rest⟩
    dsimp only
    rcases exponent rest with ⟨power, rest⟩
    dsimp only
    split
    · split
      · exact .fail _
      · rename_i short
        refine .give ?_ _
        have bound := digitsOf_lt (digits_of_whole? read)
        have most : Nat.pow 10 digits.length ≤ Number.writingLimit := by
          unfold Number.writingLimit
          exact power_le (Nat.not_lt.1 short)
        have same : (Reading.withSign negative (digitsOf digits)).natAbs = digitsOf digits := by
          cases negative <;> simp [Reading.withSign]
        refine Number.isWritable_int_iff.2 ?_
        rw [same]
        exact Nat.lt_of_lt_of_le bound most
    · exact .give rfl _

theorem word_writes {d : Document} (writable : d.isWritable = true) (text : String)
    (cs : List Char) : Writes (word text d cs) := by
  unfold word
  cases after? text cs with
  | none => exact .fail _
  | some rest => exact .give writable rest

theorem scalar_writes (cs : List Char) : Writes (scalar cs) := by
  unfold scalar
  split
  · exact word_writes rfl _ _
  · exact word_writes rfl _ _
  · exact word_writes rfl _ _
  · exact word_writes rfl _ _
  · exact word_writes rfl _ _
  · exact word_writes rfl _ _
  · exact number_writes true _
  · exact number_writes false _

/-- With so much fuel, values, items and fields can be written if those before them can. -/
structure ValuesWrite (fuel : Nat) : Prop where
  value (cs : List Char) : Writes (value fuel cs)
  items (cs : List Char) {found : List Document} (sofar : Document.areWritable found = true) :
    Writes (items fuel cs found)
  fields (cs : List Char) {found : Fields} (sofar : Document.hasWritableFields found = true) :
    Writes (fields fuel cs found)

namespace ValuesWrite

variable {fuel : Nat} (h : ValuesWrite fuel)

include h

theorem value_succ (cs : List Char) : Writes (Reader.value (fuel + 1) cs) := by
  unfold Reader.value
  split
  · cases text? (fuel + 1) _ [] with
    | none => exact .fail _
    | some read => exact .give rfl _
  · split
    · exact .give rfl _
    · exact h.items _ rfl
  · split
    · exact .give rfl _
    · exact h.fields _ rfl
  · exact scalar_writes _

theorem items_succ (cs : List Char) {found : List Document}
    (sofar : Document.areWritable found = true) : Writes (Reader.items (fuel + 1) cs found) := by
  unfold Reader.items
  cases one : Reader.value fuel cs with
  | error failure => exact .fail _
  | ok read =>
    have all : Document.areWritable (read.1 :: found) = true := by
      rw [Document.areWritable, h.value cs read.1 read.2 one, sofar]
      rfl
    dsimp only
    split
    · exact h.items _ all
    · refine .give (d := .list _) (Document.areWritable_iff.2 fun d mem => ?_) _
      exact Document.areWritable_iff.1 all d (List.mem_reverse.1 mem)
    · exact .fail _

theorem fields_succ (cs : List Char) {found : Fields}
    (sofar : Document.hasWritableFields found = true) :
    Writes (Reader.fields (fuel + 1) cs found) := by
  unfold Reader.fields
  split
  · split
    · exact .fail _
    · rename_i key rest _
      split
      · cases one : Reader.value fuel (skip _) with
        | error failure => exact .fail _
        | ok read =>
          have all : Document.hasWritableFields (Fields.put found key read.1) = true :=
            Fields.hasWritableFields_put sofar (h.value _ read.1 read.2 one)
          dsimp only
          split
          · exact h.fields _ all
          · exact .give (d := .object _) all _
          · exact .fail _
      · exact .fail _
  · exact .fail _

end ValuesWrite

theorem values_write (fuel : Nat) : ValuesWrite fuel := by
  induction fuel with
  | zero =>
    refine ⟨fun cs => ?_, fun cs found _ => ?_, fun cs found _ => ?_⟩
    · rw [value]
      exact .fail _
    · rw [items]
      exact .fail _
    · rw [fields]
      exact .fail _
  | succ fuel ih => exact ⟨ih.value_succ, ih.items_succ, ih.fields_succ⟩

end Reader

namespace Document

/-- No integer that is read is too long to be written. -/
theorem isWritable_of_read {s : String} {d : Document} (h : read s = .ok d) :
    d.isWritable = true := by
  unfold read at h
  dsimp only at h
  split at h
  · rename_i whole rest isRead
    split at h
    · cases h
      exact (Reader.values_write _).value _ _ _ isRead
    · cases h
  · cases h

end Document

end InteractiveFiction
