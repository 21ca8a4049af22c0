import InteractiveFiction.Document.Coercion

/-!
The order of numbers, as clamping and truncating use it, and their equality.

* `Number.compare?_int`, `Number.isZero_int`: integers compare as integers.
* `Number.not_le_iff_lt_iff`: the order is total, but for the double that is no number.
* `Number.le_trans`: the order is transitive, also across integers and doubles.
* `Number.zero_le_max`: what is kept from falling below zero is at least zero, doubles too.
* `Number.truncate?_clamp`: the whole part of a number clamped to bounds is within the bounds.
* `Number.equals_of_equals`: two numbers that equal a third equal one another, and so do values that
  can be keys (`Document.equals_of_equals`); of lists and objects it is not said.
-/

set_option autoImplicit false

namespace InteractiveFiction

/-! ## Readings -/

namespace Binary

theorem power_zero (base : Nat) : power base 0 = 1 := rfl

theorem power_pos {base : Nat} (pos : 0 < base) (exponent : Int) : 0 < power base exponent :=
  Nat.pow_pos pos

theorem signed_natAbs (n : Int) : signed (decide (n < 0)) n.natAbs = n := by
  unfold signed
  by_cases negative : n < 0
  · rw [if_pos (decide_eq_true negative)]
    omega
  · rw [if_neg (by simpa using negative)]
    omega

theorem compare?_ofInt (a b : Int) : (ofInt a).compare? (ofInt b) = some (compare a b) := by
  simp [ofInt, compare?, atExponent, power_zero, signed_natAbs]

/-- An integer written with a smaller exponent. -/
theorem atExponent_ofInt (n lower : Int) :
    atExponent (decide (n < 0)) n.natAbs 0 lower = n * power 2 (0 - lower) := by
  unfold atExponent signed
  by_cases negative : n < 0
  · have magnitude : (n.natAbs : Int) = -n := by omega
    rw [decide_eq_true negative, if_pos rfl]
    rw [Int.natCast_mul, magnitude, Int.neg_mul, Int.neg_neg]
  · have magnitude : (n.natAbs : Int) = n := by omega
    simp [negative, magnitude]

/-- The whole part of a magnitude. -/
def whole (mantissa : Nat) (exponent : Int) : Nat :=
  if 0 ≤ exponent then mantissa * power 2 exponent else mantissa / power 2 (-exponent)

theorem truncate?_finite (negative : Bool) (mantissa : Nat) (exponent : Int) :
    truncate? (.finite negative mantissa exponent) =
      some (signed negative (whole mantissa exponent)) := by
  by_cases upwards : 0 ≤ exponent
  · rw [whole, if_pos upwards]
    exact if_pos upwards
  · rw [whole, if_neg upwards]
    exact if_neg upwards

/-- A magnitude below an integer, both written with one exponent, has no greater whole part. -/
theorem whole_le {mantissa : Nat} {exponent limit : Int}
    (below : ((mantissa * power 2 (exponent - min exponent 0) : Nat) : Int) <
      limit * power 2 (0 - min exponent 0)) : (whole mantissa exponent : Int) ≤ limit := by
  unfold whole
  by_cases upwards : 0 ≤ exponent
  · rw [if_pos upwards]
    rw [Int.min_eq_right upwards, Int.sub_zero, Int.sub_zero, power_zero, Int.natCast_one,
      Int.mul_one] at below
    exact Int.le_of_lt below
  · rw [if_neg upwards]
    rw [Int.min_eq_left (by omega), Int.sub_self, power_zero, Nat.mul_one, Int.zero_sub] at below
    have parts := power_pos (by omega : 0 < 2) (-exponent)
    have within : (mantissa : Int) / power 2 (-exponent) < limit :=
      Int.ediv_lt_of_lt_mul (by omega) below
    exact Int.le_of_lt within

/-- A value between integers on both sides of zero has a whole part, which is between them too. -/
theorem truncate?_between {value : Binary} {low high : Int} (low_le : low ≤ 0) (le_high : 0 ≤ high)
    (above : (ofInt low).compare? value = some .lt)
    (below : value.compare? (ofInt high) = some .lt) :
    ∃ n, value.truncate? = some n ∧ low ≤ n ∧ n ≤ high := by
  cases value with
  | notANumber => cases above
  | infinite negative => cases negative <;> simp [ofInt, compare?] at above below
  | finite negative mantissa exponent =>
    simp only [ofInt, compare?, atExponent_ofInt, Option.some.injEq, Int.compare_eq_lt]
      at above below
    refine ⟨_, truncate?_finite _ _ _, ?_⟩
    cases negative with
    | false =>
      have le : (whole mantissa exponent : Int) ≤ high := whole_le below
      change low ≤ (whole mantissa exponent : Int) ∧ (whole mantissa exponent : Int) ≤ high
      omega
    | true =>
      have le : (whole mantissa exponent : Int) ≤ -low := by
        apply whole_le
        rw [Int.min_comm] at above
        change _ < -((mantissa * power 2 (exponent - min exponent 0) : Nat) : Int) at above
        rw [Int.neg_mul]
        omega
      change low ≤ -(whole mantissa exponent : Int) ∧ -(whole mantissa exponent : Int) ≤ high
      omega

/-- The other way round, two values compare the opposite way. -/
theorem compare?_swap (a b : Binary) : b.compare? a = (a.compare? b).map Ordering.swap := by
  cases a with
  | notANumber => cases b <;> rfl
  | infinite s =>
    cases b with
    | notANumber => rfl
    | infinite t => cases s <;> cases t <;> rfl
    | finite t n f => cases s <;> rfl
  | finite s m e =>
    cases b with
    | notANumber => rfl
    | infinite t => cases t <;> rfl
    | finite t n f =>
      simp only [compare?, Option.map_some, Option.some.injEq]
      rw [Int.min_comm f e]
      exact Std.OrientedCmp.eq_swap

theorem compare?_eq_none_iff {a b : Binary} :
    a.compare? b = none ↔ a = .notANumber ∨ b = .notANumber := by
  cases a <;> cases b <;> simp [compare?]

end Binary

/-! ## Numbers -/

namespace Number

theorem compare?_int (a b : Int) : (Number.int a).compare? (.int b) = some (compare a b) :=
  Binary.compare?_ofInt a b

theorem isZero_int (n : Int) : (Number.int n).isZero = decide (n = 0) := by
  have order : (Number.int n).compare? 0 = some (compare n 0) := compare?_int n 0
  rw [isZero, equals, order, Bool.eq_iff_iff, beq_iff_eq, Option.some.injEq, Int.compare_eq_eq,
    decide_eq_true_iff]

theorem lt_iff {a b : Number} : a.lt b = true ↔ a.compare? b = some .lt := by
  rw [lt, beq_iff_eq]

theorem le_of_lt {a b : Number} (h : a.lt b = true) : a.le b = true := by
  simp [le, h]

theorem le_iff {a b : Number} :
    a.le b = true ↔ a.compare? b = some .lt ∨ a.compare? b = some .eq := by
  rw [le, Bool.or_eq_true_iff, lt_iff, equals, beq_iff_eq]

theorem int_le_int {a b : Int} : (Number.int a).le (.int b) = true ↔ a ≤ b := by
  rw [le_iff, compare?_int, Option.some.injEq, Option.some.injEq, Int.compare_eq_lt,
    Int.compare_eq_eq]
  omega

/-- It has a place in the order, as all have but the double that is no number. -/
def Compares (n : Number) : Prop :=
  n.toBinary ≠ .notANumber

instance (n : Number) : Decidable n.Compares :=
  inferInstanceAs (Decidable (¬ _ = _))

theorem compare?_eq_none_iff {a b : Number} :
    a.compare? b = none ↔ ¬ (a.Compares ∧ b.Compares) := by
  have same : a.compare? b = none ↔ a.toBinary = .notANumber ∨ b.toBinary = .notANumber :=
    Binary.compare?_eq_none_iff
  rw [same, Compares, Compares, ← not_or, Decidable.not_not]

theorem compares_of_le {a b : Number} (h : a.le b = true) : a.Compares ∧ b.Compares := by
  refine Decidable.not_not.1 fun apart => ?_
  have none := compare?_eq_none_iff.2 apart
  rw [le_iff, none] at h
  rcases h with h | h <;> cases h

/-- Only of two that have a place in the order is one greater exactly if it is not at most the
other. -/
theorem not_le_iff_lt_iff {a b : Number} :
    (a.le b = false ↔ b.lt a = true) ↔ a.Compares ∧ b.Compares := by
  have swapped : b.compare? a = (a.compare? b).map Ordering.swap :=
    Binary.compare?_swap a.toBinary b.toBinary
  have both : a.Compares ∧ b.Compares ↔ a.compare? b ≠ none := by
    rw [Ne, compare?_eq_none_iff, Decidable.not_not]
  rw [both, lt_iff, swapped, le, lt, equals]
  cases a.compare? b with
  | none => simp
  | some order => cases order <;> simp

theorem zero_le_max (n : Number) : Number.le 0 (Number.max 0 n) = true := by
  unfold max
  split
  · rename_i positive
    exact le_of_lt positive
  · decide

theorem truncate?_int (n : Int) : (Number.int n).truncate? = some n := by
  simp [truncate?, toBinary, Binary.ofInt, Binary.truncate?, Binary.power_zero,
    Binary.signed_natAbs]

theorem toInt_of_truncate? {a : Number} {n : Int} (h : a.truncate? = some n) :
    a.toInt = .ok n := by
  cases a with
  | int m =>
    rw [truncate?_int] at h
    cases h
    rfl
  | float x =>
    unfold truncate? toBinary at h
    unfold toInt
    dsimp only at h ⊢
    split
    · simp_all [Binary.truncate?]
    · simp_all [Binary.truncate?]
    · rw [h]
      rfl

/-- A number clamped to integers on both sides of zero has a whole part between them. -/
theorem truncate?_clamp (value : Number) {low high : Int} (low_le : low ≤ 0) (le_high : 0 ≤ high) :
    ∃ n, (clamp value (.int low) (.int high)).truncate? = some n ∧ low ≤ n ∧ n ≤ high := by
  unfold clamp max min
  by_cases below : value.lt (.int high) = true
  · rw [if_pos below]
    by_cases above : (Number.int low).lt value = true
    · rw [if_pos above]
      exact Binary.truncate?_between low_le le_high (lt_iff.1 above) (lt_iff.1 below)
    · rw [if_neg above]
      exact ⟨low, truncate?_int low, Int.le_refl low, by omega⟩
  · rw [if_neg below]
    split
    · exact ⟨high, truncate?_int high, by omega, Int.le_refl high⟩
    · exact ⟨low, truncate?_int low, Int.le_refl low, by omega⟩

theorem toInt_clamp {value : Number} {limit n : Int} (nonneg : 0 ≤ limit)
    (h : (clamp value 0 (.int limit)).toInt = .ok n) : 0 ≤ n ∧ n ≤ limit := by
  obtain ⟨m, part, bounds⟩ := truncate?_clamp value (Int.le_refl 0) nonneg
  have same : (clamp value 0 (.int limit)).toInt = .ok m := toInt_of_truncate? part
  rw [h] at same
  cases same
  exact bounds

end Number

/-! ## Three values

A finite value may be written with any exponent that is not above its own, and the order of two of
them does not depend on the one that is chosen (`Binary.compare?_finite`).  Three values are so
compared at one exponent. -/

namespace Binary

/-- A mantissa written with a smaller exponent, and that one with a smaller one still. -/
theorem atExponent_lower (negative : Bool) (mantissa : Nat) {exponent lower least : Int}
    (below : lower ≤ exponent) (least_le : least ≤ lower) :
    atExponent negative mantissa exponent least =
      atExponent negative mantissa exponent lower * power 2 (lower - least) := by
  have steps : (exponent - least).toNat = (exponent - lower).toNat + (lower - least).toNat := by
    omega
  have factors : power 2 (exponent - least) = power 2 (exponent - lower) * power 2 (lower - least) :=
    (congrArg (2 ^ ·) steps).trans (Nat.pow_add 2 _ _)
  unfold atExponent signed
  rw [factors, ← Nat.mul_assoc, Int.natCast_mul]
  cases negative
  · rfl
  · exact (Int.neg_mul _ _).symm

theorem compare_mul_right (a b : Int) {factor : Nat} (pos : 0 < factor) :
    compare (a * factor) (b * factor) = compare a b := by
  have positive : (0 : Int) < factor := by omega
  rcases Int.lt_trichotomy a b with less | rfl | greater
  · rw [Int.compare_eq_lt.2 less, Int.compare_eq_lt.2 (Int.mul_lt_mul_of_pos_right less positive)]
  · rw [Int.compare_eq_eq.2 rfl, Int.compare_eq_eq.2 rfl]
  · rw [Int.compare_eq_gt.2 greater,
      Int.compare_eq_gt.2 (Int.mul_lt_mul_of_pos_right greater positive)]

/-- Finite values are compared at any exponent that is above neither of their own. -/
theorem compare?_finite (s t : Bool) (m n : Nat) {e f lower : Int} (le_e : lower ≤ e)
    (le_f : lower ≤ f) :
    compare? (.finite s m e) (.finite t n f) =
      some (compare (atExponent s m e lower) (atExponent t n f lower)) := by
  have le_min : lower ≤ min e f := by omega
  rw [atExponent_lower s m (Int.min_le_left e f) le_min,
    atExponent_lower t n (Int.min_le_right e f) le_min,
    compare_mul_right _ _ (power_pos (by decide) _)]
  rfl

/-- Three finite values compare as their mantissas at the least of their exponents do. -/
theorem exists_mantissas (s t u : Bool) (m n l : Nat) (e f g : Int) :
    ∃ x y z : Int, compare? (.finite s m e) (.finite t n f) = some (compare x y) ∧
      compare? (.finite t n f) (.finite u l g) = some (compare y z) ∧
      compare? (.finite s m e) (.finite u l g) = some (compare x z) := by
  have le_e : min e (min f g) ≤ e := by omega
  have le_f : min e (min f g) ≤ f := by omega
  have le_g : min e (min f g) ≤ g := by omega
  exact ⟨_, _, _, compare?_finite s t m n le_e le_f, compare?_finite t u n l le_f le_g,
    compare?_finite s u m l le_e le_g⟩

theorem atMost_trans {a b c : Binary}
    (first : a.compare? b = some .lt ∨ a.compare? b = some .eq)
    (second : b.compare? c = some .lt ∨ b.compare? c = some .eq) :
    a.compare? c = some .lt ∨ a.compare? c = some .eq := by
  cases b with
  | notANumber => simp [compare?] at second
  | infinite t =>
    cases a with
    | notANumber => simp [compare?] at first
    | finite s m e =>
      cases c with
      | notANumber => simp [compare?] at second
      | infinite u => cases t <;> cases u <;> simp_all [compare?]
      | finite u l g => cases t <;> simp [compare?] at first second
    | infinite s =>
      cases c with
      | notANumber => simp [compare?] at second
      | infinite u => cases s <;> cases t <;> cases u <;> simp_all [compare?]
      | finite u l g => cases s <;> cases t <;> simp_all [compare?]
  | finite t n f =>
    cases a with
    | notANumber => simp [compare?] at first
    | infinite s =>
      cases c with
      | notANumber => simp [compare?] at second
      | infinite u => cases s <;> cases u <;> simp_all [compare?]
      | finite u l g => cases s <;> simp_all [compare?]
    | finite s m e =>
      cases c with
      | notANumber => simp [compare?] at second
      | infinite u => exact second
      | finite u l g =>
        obtain ⟨x, y, z, xy, yz, xz⟩ := exists_mantissas s t u m n l e f g
        rw [xy, Option.some.injEq, Option.some.injEq, Int.compare_eq_lt, Int.compare_eq_eq] at first
        rw [yz, Option.some.injEq, Option.some.injEq, Int.compare_eq_lt, Int.compare_eq_eq] at second
        rw [xz, Option.some.injEq, Option.some.injEq, Int.compare_eq_lt, Int.compare_eq_eq]
        omega

theorem equal_of_equal {a b c : Binary} (first : a.compare? c = some .eq)
    (second : b.compare? c = some .eq) : a.compare? b = some .eq := by
  cases c with
  | notANumber => cases a <;> simp [compare?] at first
  | infinite u =>
    cases a with
    | notANumber => simp [compare?] at first
    | finite s m e => cases u <;> simp [compare?] at first
    | infinite s =>
      cases b with
      | notANumber => simp [compare?] at second
      | finite t n f => cases u <;> simp [compare?] at second
      | infinite t => cases s <;> cases t <;> cases u <;> simp_all [compare?]
  | finite u l g =>
    cases a with
    | notANumber => simp [compare?] at first
    | infinite s => cases s <;> simp [compare?] at first
    | finite s m e =>
      cases b with
      | notANumber => simp [compare?] at second
      | infinite t => cases t <;> simp [compare?] at second
      | finite t n f =>
        obtain ⟨x, y, z, xy, yz, xz⟩ := exists_mantissas s t u m n l e f g
        rw [xz, Option.some.injEq, Int.compare_eq_eq] at first
        rw [yz, Option.some.injEq, Int.compare_eq_eq] at second
        rw [xy, Option.some.injEq, Int.compare_eq_eq]
        exact first.trans second.symm

end Binary

theorem Number.le_trans {a b c : Number} (first : a.le b = true) (second : b.le c = true) :
    a.le c = true :=
  le_iff.2 (Binary.atMost_trans (le_iff.1 first) (le_iff.1 second))

theorem Number.int_le_of_le {a b : Int} {limit : Number} (fewer : b ≤ a)
    (h : (Number.int a).le limit = true) : (Number.int b).le limit = true :=
  le_trans (int_le_int.2 fewer) h

theorem Number.equals_of_equals {a b c : Number} (first : a.equals c = true)
    (second : b.equals c = true) : a.equals b = true := by
  rw [equals, beq_iff_eq] at first second ⊢
  exact Binary.equal_of_equal first second

namespace Document

/-- What equals a number is a number, and as a number it equals it. -/
theorem equals_number? {a c : Document} {n : Number} (number : c.number? = some n) :
    a.equals c = true ↔ ∃ m, a.number? = some m ∧ m.equals n = true := by
  cases a with
  | bool b =>
    rw [equals, number]
    simp [Document.number?]
  | number m =>
    rw [equals, number]
    simp [Document.number?]
  | _ => cases c <;> simp_all [equals, Document.number?]

/-- Keys that equal a third are one key. -/
theorem equals_of_equals {a b c : Document} (key : c.isKey = true) (first : a.equals c = true)
    (second : b.equals c = true) : a.equals b = true := by
  cases numeric : c.number? with
  | some n =>
    obtain ⟨x, number, same⟩ := (equals_number? numeric).1 first
    obtain ⟨y, number', same'⟩ := (equals_number? numeric).1 second
    exact (equals_number? number').2 ⟨x, number, Number.equals_of_equals same same'⟩
  | none =>
    cases c with
    | null => cases a <;> cases b <;> simp_all [equals, Document.number?]
    | text s => cases a <;> cases b <;> simp_all [equals, Document.number?]
    | bool _ => cases numeric
    | number _ => cases numeric
    | list _ => cases key
    | object _ => cases key

end Document

end InteractiveFiction
