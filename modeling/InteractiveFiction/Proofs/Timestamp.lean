import InteractiveFiction.Timestamp
import Mathlib.Algebra.Ring.Int.Defs
import Mathlib.Data.String.Basic

/-!
Texts of instants, in the order of code points, are in the order of the instants.

* `Timestamp.date_before`: later days have later dates.
* `Timestamp.date_succ`: and they follow one another as the calendar says.
* `Timestamp.Dated`: the instants that have a text, those of the years 1 to 9999.
* `Timestamp.ofMicroseconds_lt`: the earlier of two instants has the smaller text.
-/

set_option autoImplicit false

namespace InteractiveFiction

namespace Timestamp

/-! ## Dates -/

namespace Date

/-- Years count first, then months, then days. -/
def Before (a b : Date) : Prop :=
  a.year < b.year ∨
    a.year = b.year ∧ (a.month < b.month ∨ a.month = b.month ∧ a.day < b.day)

end Date

/-- The year of a day within its era, both counted from zero. -/
def yearOfEra (day : Int) : Int :=
  (day - day / 1460 + day / 36524 - day / 146096) / 365

def firstDay (year : Int) : Int :=
  365 * year + year / 4 - year / 100

def monthFromMarch (dayOfYear : Int) : Int :=
  (5 * dayOfYear + 2) / 153

theorem yearOfEra_le {a b : Int} (h : a ≤ b) : yearOfEra a ≤ yearOfEra b := by
  have shifted :
      a - a / 1460 + a / 36524 - a / 146096 ≤ b - b / 1460 + b / 36524 - b / 146096 := by
    omega
  unfold yearOfEra
  omega

theorem yearOfEra_firstDay :
    ∀ year : Nat, year < 400 → yearOfEra (firstDay year) = year := by
  decide +kernel

theorem yearOfEra_lastDay :
    ∀ year : Nat, year < 400 → yearOfEra (firstDay (year + 1 : Nat) - 1) = year := by
  decide +kernel

theorem yearOfEra_bounds {day : Int} (h : 0 ≤ day ∧ day < 146097) :
    0 ≤ yearOfEra day ∧ yearOfEra day < 400 := by
  unfold yearOfEra
  omega

/-- The day of an era on which a year is over; the last year has one day more. -/
def yearEnd (year : Int) : Int :=
  if year = 399 then 146097 else firstDay (year + 1)

/-- A day is in the year that begins before it and is not over yet. -/
theorem yearOfEra_eq_iff {day year : Int} (h : 0 ≤ day ∧ day < 146097)
    (years : 0 ≤ year ∧ year < 400) :
    yearOfEra day = year ↔ firstDay year ≤ day ∧ day < yearEnd year := by
  have bounds := yearOfEra_bounds h
  have first {year : Int} (years : 0 ≤ year ∧ year < 400) : yearOfEra (firstDay year) = year := by
    obtain ⟨year, rfl⟩ := Int.eq_ofNat_of_zero_le years.1
    exact yearOfEra_firstDay year (by omega)
  have last {year : Int} (years : 0 ≤ year ∧ year < 400) :
      yearOfEra (firstDay (year + 1) - 1) = year := by
    obtain ⟨year, rfl⟩ := Int.eq_ofNat_of_zero_le years.1
    exact yearOfEra_lastDay year (by omega)
  unfold yearEnd
  constructor
  · rintro rfl
    constructor
    · refine Int.not_lt.1 fun early => ?_
      by_cases none : yearOfEra day = 0
      · rw [none] at early
        exact absurd h.1 (Int.not_le.2 early)
      · have earlier := yearOfEra_le (Int.le_sub_one_of_lt early)
        have before : yearOfEra (firstDay (yearOfEra day - 1 + 1) - 1) = yearOfEra day - 1 :=
          last (by omega)
        rw [Int.sub_add_cancel] at before
        omega
    · split
      · exact h.2
      · refine Int.not_le.1 fun late => ?_
        have later := yearOfEra_le late
        rw [first (by omega)] at later
        omega
  · rintro ⟨begun, within⟩
    have atLeast := yearOfEra_le begun
    rw [first years] at atLeast
    split at within
    · omega
    · have atMost := yearOfEra_le (Int.le_sub_one_of_lt within)
      rw [last years] at atMost
      omega

/-- The days of a year are counted from zero to 365 at most. -/
theorem dayOfYear_bounds {day : Int} (h : 0 ≤ day ∧ day < 146097) :
    0 ≤ day - firstDay (yearOfEra day) ∧ day - firstDay (yearOfEra day) < 366 := by
  have bounds := yearOfEra_bounds h
  obtain ⟨begun, within⟩ := (yearOfEra_eq_iff h bounds).1 rfl
  unfold yearEnd firstDay at within
  unfold firstDay at begun ⊢
  split at within <;> omega

/-- Months from March are counted from zero to eleven, and days of a month from one to 31. -/
theorem monthFromMarch_bounds {day : Int} (h : 0 ≤ day ∧ day < 366) :
    (0 ≤ monthFromMarch day ∧ monthFromMarch day < 12) ∧
      1 ≤ day - (153 * monthFromMarch day + 2) / 5 + 1 ∧
      day - (153 * monthFromMarch day + 2) / 5 + 1 ≤ 31 := by
  unfold monthFromMarch
  omega

theorem monthFromMarch_le {a b : Int} (h : a ≤ b) : monthFromMarch a ≤ monthFromMarch b := by
  unfold monthFromMarch
  omega

theorem monthFromMarch_eq_iff {day month : Int} :
    monthFromMarch day = month ↔
      (153 * month + 2) / 5 ≤ day ∧ day < (153 * (month + 1) + 2) / 5 := by
  unfold monthFromMarch
  omega

/-- The date of a day of a year that is counted from the first of March. -/
def fromMarch (year dayOfYear : Int) : Date where
  year := if monthFromMarch dayOfYear < 10 then year else year + 1
  month :=
    if monthFromMarch dayOfYear < 10 then monthFromMarch dayOfYear + 3
    else monthFromMarch dayOfYear - 9
  day := dayOfYear - (153 * monthFromMarch dayOfYear + 2) / 5 + 1

theorem date_eq (days : Int) :
    date days = fromMarch
      (yearOfEra ((days + 719468) % 146097) + (days + 719468) / 146097 * 400)
      ((days + 719468) % 146097 - firstDay (yearOfEra ((days + 719468) % 146097))) := by
  obtain ⟨months, -⟩ := monthFromMarch_bounds (dayOfYear_bounds
    (by omega : 0 ≤ (days + 719468) % 146097 ∧ (days + 719468) % 146097 < 146097))
  have read : let day := (days + 719468) % 146097
      let month := monthFromMarch (day - firstDay (yearOfEra day))
      date days = {
        year := yearOfEra day + (days + 719468) / 146097 * 400 +
          (if (if month < 10 then month + 3 else month - 9) ≤ 2 then 1 else 0)
        month := if month < 10 then month + 3 else month - 9
        day := day - firstDay (yearOfEra day) - (153 * month + 2) / 5 + 1 } := rfl
  rw [read, fromMarch, Date.mk.injEq]
  omega

theorem fromMarch_before {year year' day day' : Int} (h : 0 ≤ day ∧ day < 366)
    (h' : 0 ≤ day' ∧ day' < 366) (later : year < year' ∨ year = year' ∧ day < day') :
    (fromMarch year day).Before (fromMarch year' day') := by
  have months := monthFromMarch_bounds h
  have months' := monthFromMarch_bounds h'
  have rising (less : day ≤ day') := monthFromMarch_le less
  unfold Date.Before fromMarch
  dsimp only
  omega

theorem date_before {m n : Int} (h : m < n) : (date m).Before (date n) := by
  have inEra (days : Int) : 0 ≤ (days + 719468) % 146097 ∧ (days + 719468) % 146097 < 146097 := by
    omega
  rw [date_eq m, date_eq n]
  refine fromMarch_before (dayOfYear_bounds (inEra m)) (dayOfYear_bounds (inEra n)) ?_
  have years := yearOfEra_bounds (inEra m)
  have years' := yearOfEra_bounds (inEra n)
  by_cases sameEra : (m + 719468) / 146097 = (n + 719468) / 146097
  · have yearsLe := yearOfEra_le (by omega : (m + 719468) % 146097 ≤ (n + 719468) % 146097)
    by_cases sameYear :
        yearOfEra ((m + 719468) % 146097) = yearOfEra ((n + 719468) % 146097)
    · rw [sameYear]
      omega
    · omega
  · omega

theorem date_bounds (days : Int) :
    (1 ≤ (date days).month ∧ (date days).month ≤ 12) ∧
      1 ≤ (date days).day ∧ (date days).day ≤ 31 := by
  have inEra : 0 ≤ (days + 719468) % 146097 ∧ (days + 719468) % 146097 < 146097 := by
    omega
  obtain ⟨months, dayOfMonth⟩ := monthFromMarch_bounds (dayOfYear_bounds inEra)
  rw [date_eq]
  refine ⟨?_, dayOfMonth⟩
  unfold fromMarch
  dsimp only
  omega

/-! ### The calendar -/

namespace Date

/-- Every fourth year, but of those that end a century only every fourth. -/
def IsLeap (year : Int) : Prop :=
  year % 4 = 0 ∧ (year % 100 ≠ 0 ∨ year % 400 = 0)

instance (year : Int) : Decidable (IsLeap year) :=
  inferInstanceAs (Decidable (_ ∧ _))

def monthLength (year month : Int) : Int :=
  if month = 2 then if IsLeap year then 29 else 28
  else if month = 4 ∨ month = 6 ∨ month = 9 ∨ month = 11 then 30
  else 31

/-- The date of the day after. -/
def next (d : Date) : Date :=
  if d.day < monthLength d.year d.month then { d with day := d.day + 1 }
  else if d.month < 12 then { d with month := d.month + 1, day := 1 }
  else { year := d.year + 1, month := 1, day := 1 }

end Date

/-- The number of days from the first of March of a year to the next. -/
def yearLength (year : Int) : Int :=
  if Date.IsLeap (year + 1) then 366 else 365

theorem yearLength_bounds (year : Int) : 365 ≤ yearLength year ∧ yearLength year ≤ 366 := by
  unfold yearLength
  split <;> omega

theorem monthLength_fromMarch (year : Int) {day : Int} (h : 0 ≤ day ∧ day < 366) :
    Date.monthLength (fromMarch year day).year (fromMarch year day).month =
      (if monthFromMarch day = 11 then yearLength year
        else (153 * (monthFromMarch day + 1) + 2) / 5) - (153 * monthFromMarch day + 2) / 5 := by
  obtain ⟨bounds, -⟩ := monthFromMarch_bounds h
  unfold fromMarch yearLength
  generalize monthFromMarch day = month at bounds ⊢
  have months : month = 0 ∨ month = 1 ∨ month = 2 ∨ month = 3 ∨ month = 4 ∨ month = 5 ∨
      month = 6 ∨ month = 7 ∨ month = 8 ∨ month = 9 ∨ month = 10 ∨ month = 11 := by
    omega
  rcases months with
    rfl | rfl | rfl | rfl | rfl | rfl | rfl | rfl | rfl | rfl | rfl | rfl <;>
    simp [Date.monthLength]
  split <;> rfl

theorem fromMarch_succ {year day : Int} (first : 0 ≤ day) (within : day + 1 < yearLength year) :
    fromMarch year (day + 1) = (fromMarch year day).next := by
  obtain ⟨-, short⟩ := yearLength_bounds year
  have inYear : 0 ≤ day ∧ day < 366 := ⟨first, by omega⟩
  have length := monthLength_fromMarch year inYear
  obtain ⟨months, -⟩ := monthFromMarch_bounds inYear
  have place := monthFromMarch_eq_iff.1 (rfl : monthFromMarch day = monthFromMarch day)
  have dayOfMonth : (fromMarch year day).day = day - (153 * monthFromMarch day + 2) / 5 + 1 := rfl
  by_cases sameMonth : monthFromMarch (day + 1) = monthFromMarch day
  · have place' := monthFromMarch_eq_iff.1 sameMonth
    rw [Date.next, if_pos (by split at length <;> omega)]
    unfold fromMarch
    rw [sameMonth, Date.mk.injEq]
    dsimp only
    omega
  · have nextMonth : monthFromMarch (day + 1) = monthFromMarch day + 1 := by
      rw [monthFromMarch_eq_iff] at sameMonth ⊢
      omega
    have place' := monthFromMarch_eq_iff.1 nextMonth
    rw [Date.next, if_neg (by split at length <;> omega)]
    by_cases december : monthFromMarch day = 9
    · rw [if_neg (by unfold fromMarch; dsimp only; omega)]
      unfold fromMarch
      rw [nextMonth, Date.mk.injEq]
      dsimp only
      omega
    · rw [if_pos (by unfold fromMarch; dsimp only; omega)]
      unfold fromMarch
      rw [nextMonth, Date.mk.injEq]
      dsimp only
      omega

/-- The last day of February is before the first of March. -/
theorem fromMarch_zero {year day : Int} (last : day + 1 = yearLength year) :
    fromMarch (year + 1) 0 = (fromMarch year day).next := by
  obtain ⟨long, short⟩ := yearLength_bounds year
  have february : monthFromMarch day = 11 := by
    unfold monthFromMarch
    omega
  have dayOfMonth : (fromMarch year day).day = day - (153 * monthFromMarch day + 2) / 5 + 1 := rfl
  rw [february] at dayOfMonth
  rw [Date.next, monthLength_fromMarch year ⟨by omega, by omega⟩, february, if_pos rfl,
    if_neg (by omega)]
  unfold fromMarch
  rw [february]
  rfl

theorem yearLength_of_era {year : Int} (h : 0 ≤ year ∧ year < 400) (era : Int) :
    yearLength (year + era * 400) = yearEnd year - firstDay year := by
  unfold yearLength yearEnd firstDay
  by_cases leap : Date.IsLeap (year + era * 400 + 1)
  · rw [if_pos leap]
    unfold Date.IsLeap at leap
    split <;> omega
  · rw [if_neg leap]
    unfold Date.IsLeap at leap
    split <;> omega

/-- The day that is so many days after the first of March of a year of an era. -/
def dayOfEra (era year day : Int) : Int :=
  146097 * era + firstDay year + day - 719468

theorem exists_dayOfEra (days : Int) : ∃ era year day, days = dayOfEra era year day ∧
    (0 ≤ year ∧ year < 400) ∧ 0 ≤ day ∧ day < yearLength (year + era * 400) := by
  have inEra : 0 ≤ (days + 719468) % 146097 ∧ (days + 719468) % 146097 < 146097 := by
    omega
  have years := yearOfEra_bounds inEra
  obtain ⟨begun, within⟩ := (yearOfEra_eq_iff inEra years).1 rfl
  refine ⟨(days + 719468) / 146097, yearOfEra ((days + 719468) % 146097),
    (days + 719468) % 146097 - firstDay (yearOfEra ((days + 719468) % 146097)), ?_, years, ?_⟩
  · unfold dayOfEra
    omega
  · rw [yearLength_of_era years]
    omega

theorem date_dayOfEra {era year day : Int} (h : 0 ≤ year ∧ year < 400)
    (within : 0 ≤ day ∧ day < yearLength (year + era * 400)) :
    date (dayOfEra era year day) = fromMarch (year + era * 400) day := by
  rw [yearLength_of_era h] at within
  have inEra : 0 ≤ firstDay year + day ∧ firstDay year + day < 146097 := by
    unfold yearEnd firstDay at within
    unfold firstDay
    split at within <;> omega
  have sameYear : yearOfEra (firstDay year + day) = year :=
    (yearOfEra_eq_iff inEra h).2 (by omega)
  have sameEra : (dayOfEra era year day + 719468) / 146097 = era := by
    unfold dayOfEra
    omega
  have sameDay : (dayOfEra era year day + 719468) % 146097 = firstDay year + day := by
    unfold dayOfEra
    omega
  rw [date_eq, sameEra, sameDay, sameYear, add_sub_cancel_left]

/-- Dates follow one another as the calendar says. -/
theorem date_succ (days : Int) : date (days + 1) = (date days).next := by
  obtain ⟨era, year, day, rfl, years, within⟩ := exists_dayOfEra days
  rw [date_dayOfEra years within]
  by_cases sameYear : day + 1 < yearLength (year + era * 400)
  · rw [← fromMarch_succ within.1 sameYear, ← date_dayOfEra years ⟨by omega, sameYear⟩]
    unfold dayOfEra
    exact congrArg date (by omega)
  · have last : day + 1 = yearLength (year + era * 400) := by omega
    have begins (year : Int) : (0 : Int) ≤ 0 ∧ 0 < yearLength year :=
      ⟨Int.le_refl 0, by have := yearLength_bounds year; omega⟩
    rw [← fromMarch_zero last]
    rw [yearLength_of_era years, yearEnd] at last
    -- The year after the last one of an era is the first one of the next.
    by_cases lastYear : year = 399
    · subst lastYear
      rw [(by omega : 399 + era * 400 + 1 = 0 + (era + 1) * 400),
        ← date_dayOfEra ⟨Int.le_refl 0, by decide⟩ (begins _)]
      unfold dayOfEra firstDay
      unfold firstDay at last
      exact congrArg date (by omega)
    · rw [if_neg lastYear] at last
      rw [(by omega : year + era * 400 + 1 = year + 1 + era * 400),
        ← date_dayOfEra ⟨by omega, by omega⟩ (begins _)]
      unfold dayOfEra
      exact congrArg date (by omega)

/-! ## Digits -/

/-- The last digits of a number, as many as asked for. -/
def digits : Nat → Nat → List Char
  | 0, _ => []
  | width + 1, n => digits width (n / 10) ++ [Nat.digitChar (n % 10)]

theorem length_digits (width n : Nat) : (digits width n).length = width := by
  induction width generalizing n with
  | zero => rfl
  | succ width ih => simp [digits, ih]

theorem digits_zero (width : Nat) : digits width 0 = List.replicate width '0' := by
  induction width with
  | zero => rfl
  | succ width ih =>
    rw [digits, ih, List.replicate_succ']
    rfl

theorem digits_eq {width n : Nat} (fits : n < 10 ^ (width + 1)) :
    List.replicate (width + 1 - (Nat.toDigits 10 n).length) '0' ++ Nat.toDigits 10 n =
      digits (width + 1) n := by
  induction width generalizing n with
  | zero =>
    rw [Nat.toDigits_of_lt_base (by omega)]
    simp [digits, Nat.mod_eq_of_lt (by omega : n < 10)]
  | succ width ih =>
    by_cases single : n < 10
    · rw [Nat.toDigits_of_lt_base single, digits, Nat.div_eq_of_lt single, digits_zero,
        Nat.mod_eq_of_lt single]
      rfl
    · rw [Nat.toDigits_of_base_le (by decide) (by omega), digits, ← ih (by omega),
        List.length_append, List.append_assoc]
      simp

theorem toNat_lt_pow {width : Nat} {n : Int} (fits : n < 10 ^ width) : n.toNat < 10 ^ width := by
  have positive : 0 < 10 ^ width := Nat.pow_pos (by decide)
  have cast : ((10 ^ width : Nat) : Int) = 10 ^ width := by
    simp
  omega

theorem toList_padded {width : Nat} {n : Int} (fits : n < 10 ^ (width + 1)) :
    (padded (width + 1) n).toList = digits (width + 1) n.toNat := by
  rw [← digits_eq (toNat_lt_pow fits)]
  simp [padded, Nat.toList_repr, ← String.length_toList]

theorem lt_append_of_lt {a b : List Char} (h : a < b) (length : a.length = b.length)
    (x y : List Char) : a ++ x < b ++ y := by
  induction a generalizing b with
  | nil =>
    cases b with
    | nil => exact absurd h (List.lt_irrefl [])
    | cons d b => cases length
  | cons c a ih =>
    cases b with
    | nil => cases length
    | cons d b =>
      rcases List.cons_lt_cons_iff.1 h with first | ⟨same, rest⟩
      · exact List.cons_lt_cons_iff.2 (.inl first)
      · exact List.cons_lt_cons_iff.2 (.inr ⟨same, ih rest (Nat.succ.inj length)⟩)

theorem digitChar_lt : ∀ b < 10, ∀ a < b, Nat.digitChar a < Nat.digitChar b := by
  decide

theorem digits_lt {width m n : Nat} (h : m < n) (fits : n < 10 ^ width) :
    digits width m < digits width n := by
  induction width generalizing m n with
  | zero => omega
  | succ width ih =>
    rw [digits, digits]
    by_cases same : m / 10 = n / 10
    · rw [same]
      refine List.append_left_lt (List.cons_lt_cons_iff.2 (.inl ?_))
      exact digitChar_lt _ (Nat.mod_lt _ (by decide)) _ (by omega)
    · refine lt_append_of_lt (ih (by omega) (by omega)) ?_ _ _
      rw [length_digits, length_digits]

/-- A number before what follows it: the smaller number decides, and of equal ones the rest. -/
theorem padded_append_lt {width : Nat} {m n : Int} {x y : String} (positive : 0 ≤ m)
    (fits : n < 10 ^ (width + 1)) (h : m < n ∨ m = n ∧ x < y) :
    padded (width + 1) m ++ x < padded (width + 1) n ++ y := by
  rw [String.lt_iff_toList_lt, String.toList_append, String.toList_append]
  rcases h with less | ⟨rfl, rest⟩
  · rw [toList_padded (by omega), toList_padded fits]
    refine lt_append_of_lt (digits_lt (by omega) (toNat_lt_pow fits)) ?_ _ _
    rw [length_digits, length_digits]
  · exact List.append_left_lt (String.lt_iff_toList_lt.1 rest)

theorem append_lt_append_left (s : String) {x y : String} (h : x < y) : s ++ x < s ++ y := by
  rw [String.lt_iff_toList_lt, String.toList_append, String.toList_append]
  exact List.append_left_lt (String.lt_iff_toList_lt.1 h)

/-! ## Texts -/

/-- The instants that have a text: those of the years 1 to 9999, in microseconds. -/
def Dated (instant : Int) : Prop :=
  -62135596800000000 ≤ instant ∧ instant < 253402300800000000

instance (instant : Int) : Decidable (Dated instant) :=
  inferInstanceAs (Decidable (_ ∧ _))

/-- The date of an instant. -/
def dateOf (instant : Int) : Date :=
  date (instant / 1000000 / 86400)

/-- The time of day, with what follows it. -/
def clock (second fraction : Int) : String :=
  padded 2 (second / 3600) ++ (":" ++ (padded 2 (second / 60 % 60) ++ (":" ++
    (padded 2 (second % 60) ++
      ((if fraction = 0 then "" else "." ++ padded 6 fraction) ++ "+00:00")))))

theorem ofMicroseconds_eq (instant : Int) :
    ofMicroseconds instant = padded 4 (dateOf instant).year ++ ("-" ++
      (padded 2 (dateOf instant).month ++ ("-" ++ (padded 2 (dateOf instant).day ++ ("T" ++
        clock (instant / 1000000 % 86400) (instant % 1000000)))))) := by
  simp only [ofMicroseconds, clock, dateOf, String.append_assoc]

theorem year_le {m n : Int} (h : m ≤ n) : (date m).year ≤ (date n).year := by
  rcases Int.lt_or_eq_of_le h with less | rfl
  · rcases date_before less with year | ⟨year, -⟩ <;> omega
  · exact Int.le_refl _

theorem dated_iff {instant : Int} :
    Dated instant ↔ 1 ≤ (dateOf instant).year ∧ (dateOf instant).year ≤ 9999 := by
  have first : (date (-719162)).year = 1 := by rfl
  have before : (date (-719163)).year = 0 := by rfl
  have last : (date 2932896).year = 9999 := by rfl
  have after : (date 2932897).year = 10000 := by rfl
  have year_lt {m n : Int} (h : (date m).year < (date n).year) : m < n :=
    Int.not_le.1 fun le => Int.not_le.2 h (year_le le)
  unfold Dated dateOf
  constructor
  · intro dated
    have atLeast := year_le (by omega : -719162 ≤ instant / 1000000 / 86400)
    have atMost := year_le (by omega : instant / 1000000 / 86400 ≤ 2932896)
    omega
  · intro years
    have late := year_lt (by omega : (date (-719163)).year < (date (instant / 1000000 / 86400)).year)
    have early := year_lt (by omega : (date (instant / 1000000 / 86400)).year < (date 2932897).year)
    omega

/-- A fraction that is zero is left out, and what follows it is smaller than any fraction. -/
theorem fraction_lt {f g : Int} (positive : 0 ≤ f) (less : f < g) (fits : g < 1000000) :
    (if f = 0 then "" else "." ++ padded 6 f) ++ "+00:00" <
      (if g = 0 then "" else "." ++ padded 6 g) ++ "+00:00" := by
  rw [if_neg (by omega : g ≠ 0), String.append_assoc]
  by_cases none : f = 0
  · rw [if_pos none, String.lt_iff_toList_lt, String.toList_append, String.toList_append,
      String.toList_append]
    exact List.cons_lt_cons_iff.2 (.inl (by decide))
  · rw [if_neg none, String.append_assoc]
    exact append_lt_append_left _ (padded_append_lt positive fits (.inl less))

theorem clock_lt {second second' fraction fraction' : Int} (positive : 0 ≤ second)
    (fits : second' < 86400) (positive' : 0 ≤ fraction) (fits' : fraction' < 1000000)
    (h : second < second' ∨ second = second' ∧ fraction < fraction') :
    clock second fraction < clock second' fraction' := by
  have field {m n : Int} {x y : String} (positive : 0 ≤ m) (fits : n < 10 ^ 2)
      (h : m < n ∨ m = n ∧ x < y) : padded 2 m ++ x < padded 2 n ++ y :=
    padded_append_lt positive fits h
  unfold clock
  by_cases sameHour : second / 3600 = second' / 3600
  · refine field (by omega) (by omega) (.inr ⟨sameHour, append_lt_append_left _ ?_⟩)
    by_cases sameMinute : second / 60 % 60 = second' / 60 % 60
    · refine field (by omega) (by omega) (.inr ⟨sameMinute, append_lt_append_left _ ?_⟩)
      rcases h with less | ⟨rfl, less⟩
      · exact field (by omega) (by omega) (.inl (by omega))
      · exact field (by omega) (by omega) (.inr ⟨rfl, fraction_lt positive' less fits'⟩)
    · exact field (by omega) (by omega) (.inl (by omega))
  · exact field (by omega) (by omega) (.inl (by omega))

theorem ofMicroseconds_lt {a b : Int} (dated : Dated a) (dated' : Dated b) (h : a < b) :
    ofMicroseconds a < ofMicroseconds b := by
  have years := dated_iff.1 dated
  have years' := dated_iff.1 dated'
  obtain ⟨months, days⟩ := date_bounds (a / 1000000 / 86400)
  obtain ⟨months', days'⟩ := date_bounds (b / 1000000 / 86400)
  rw [ofMicroseconds_eq, ofMicroseconds_eq]
  by_cases sameDay : a / 1000000 / 86400 = b / 1000000 / 86400
  · have sameDate : dateOf a = dateOf b := congrArg date sameDay
    rw [sameDate]
    iterate 6 refine append_lt_append_left _ ?_
    exact clock_lt (by omega) (by omega) (by omega) (by omega) (by omega)
  · have dates : (dateOf a).Before (dateOf b) := date_before (by omega)
    refine padded_append_lt (by omega) (by omega) (dates.imp_right fun ⟨year, rest⟩ => ⟨year, ?_⟩)
    refine append_lt_append_left _ (padded_append_lt (by unfold dateOf; omega)
      (by unfold dateOf; omega) (rest.imp_right fun ⟨month, day⟩ => ⟨month, ?_⟩))
    exact append_lt_append_left _ (padded_append_lt (by unfold dateOf; omega)
      (by unfold dateOf; omega) (.inl day))

theorem ofMicroseconds_le {a b : Int} (dated : Dated a) (dated' : Dated b) (h : a ≤ b) :
    ofMicroseconds a ≤ ofMicroseconds b := by
  rcases Int.lt_or_eq_of_le h with less | rfl
  · exact le_of_lt (ofMicroseconds_lt dated dated' less)
  · exact le_refl _

theorem ofMicroseconds_le_iff {a b : Int} (dated : Dated a) (dated' : Dated b) :
    ofMicroseconds a ≤ ofMicroseconds b ↔ a ≤ b :=
  ⟨fun le => Int.not_lt.1 fun less => not_lt_of_ge le (ofMicroseconds_lt dated' dated less),
    ofMicroseconds_le dated dated'⟩

end Timestamp

end InteractiveFiction
