import CloudOps.Text.Numeral

/-!
# Calendar dates

The proleptic Gregorian calendar: its leap years are counted to both sides without end.

* `Date.dayNumber`: the days from 1970-01-01 to a date.
* `Date.ofDayNumber`: the date with a given number; `Date.ofDayNumber_valid` and
  `Date.dayNumber_ofDayNumber` say that it is a valid one and has that number.
* `weekdayName`: the day of the week with a given number.
-/

namespace CloudOps

/-- A year, a month from one and a day from one. -/
structure Date where
  year : Int
  month : Nat
  day : Nat
  deriving DecidableEq, Repr

namespace Date

/-- Every fourth year is a leap year, but of the full centuries only every fourth. -/
def isLeapYear (year : Int) : Bool :=
  decide (year % 4 = 0) && (decide (year % 100 ≠ 0) || decide (year % 400 = 0))

/-- The lengths of the months of a year. -/
def monthLengths (leap : Bool) : List Nat :=
  [31, if leap then 29 else 28, 31, 30, 31, 30, 31, 31, 30, 31, 30, 31]

/-- The length of a month, zero if there is no such month. -/
def monthLength (leap : Bool) (month : Nat) : Nat :=
  if month = 0 then 0 else ((monthLengths leap)[month - 1]?).getD 0

/-- The days of some months. -/
def daysOf (lengths : List Nat) : Nat := lengths.foldr (· + ·) 0

/-- The days of the months before a month. -/
def daysBeforeMonth (leap : Bool) (month : Nat) : Nat :=
  daysOf ((monthLengths leap).take (month - 1))

/-- The days from the first day of the year one to the first day of a year. -/
def daysBeforeYear (year : Int) : Int :=
  365 * (year - 1) + (year - 1) / 4 - (year - 1) / 100 + (year - 1) / 400

/-- The number, counted from the year one, of the first day of 1970. -/
def epochDay : Int := 719162

/-- The date exists. -/
def Valid (date : Date) : Prop :=
  1 ≤ date.month ∧ date.month ≤ 12 ∧ 1 ≤ date.day ∧
    date.day ≤ monthLength (isLeapYear date.year) date.month

instance (date : Date) : Decidable date.Valid := by
  unfold Valid; infer_instance

/-- The days from 1970-01-01 to a date. -/
def dayNumber (date : Date) : Int :=
  daysBeforeYear date.year + daysBeforeMonth (isLeapYear date.year) date.month
    + ((date.day : Int) - 1) - epochDay

/-- The year that holds a day counted from the year one. The mean length of a year gives it
with an error of at most one. -/
def yearOfDay (n : Int) : Int :=
  let guess := 400 * n / 146097 + 1
  if n < daysBeforeYear guess then guess - 1
  else if daysBeforeYear (guess + 1) ≤ n then guess + 1
  else guess

/-- The month and the day of the month for a day of the year from zero, where the months that
are left have these lengths and the first of them this number. -/
def monthOfDay (month : Nat) : List Nat → Nat → Nat × Nat
  | [], n => (month, n + 1)
  | [_], n => (month, n + 1)
  | length :: more :: rest, n =>
    if n < length then (month, n + 1) else monthOfDay (month + 1) (more :: rest) (n - length)

/-- The date with a given day number. -/
def ofDayNumber (number : Int) : Date :=
  let n := number + epochDay
  let year := yearOfDay n
  let place := monthOfDay 1 (monthLengths (isLeapYear year)) (n - daysBeforeYear year).toNat
  ⟨year, place.1, place.2⟩

/-! ## Numbers and dates -/

/-- A year is as long as the distance to the next one. -/
theorem daysBeforeYear_succ (year : Int) :
    daysBeforeYear (year + 1) = daysBeforeYear year + if isLeapYear year then 366 else 365 := by
  simp only [daysBeforeYear, isLeapYear, Bool.and_eq_true, Bool.or_eq_true, decide_eq_true_eq]
  split <;> omega

/-- The days of a year are the days of its months. -/
theorem daysOf_monthLengths (leap : Bool) :
    daysOf (monthLengths leap) = if leap then 366 else 365 := by
  cases leap <;> rfl

/-- A day lies in its year. -/
theorem yearOfDay_bounds (n : Int) :
    daysBeforeYear (yearOfDay n) ≤ n ∧ n < daysBeforeYear (yearOfDay n + 1) := by
  simp only [yearOfDay]
  split
  · rename_i h
    refine ⟨?_, by simpa using h⟩
    simp only [daysBeforeYear] at h ⊢
    omega
  · rename_i below
    split
    · rename_i h
      refine ⟨h, ?_⟩
      simp only [daysBeforeYear] at h ⊢
      omega
    · rename_i above
      exact ⟨by omega, by omega⟩

/-- A day of the year is a day of one of its months, and the months before it and the days of
the month before it make up its number. -/
theorem monthOfDay_spec (leap : Bool) {n : Nat} (h : n < daysOf (monthLengths leap)) :
    let place := monthOfDay 1 (monthLengths leap) n
    1 ≤ place.1 ∧ place.1 ≤ 12 ∧ 1 ≤ place.2 ∧ place.2 ≤ monthLength leap place.1 ∧
      daysBeforeMonth leap place.1 + (place.2 - 1) = n := by
  cases leap
  · replace h : n < 365 := h
    revert n
    decide +kernel
  · replace h : n < 366 := h
    revert n
    decide +kernel

/-- The day of its year that a day is. -/
theorem dayOfYear_lt (n : Int) :
    (n - daysBeforeYear (yearOfDay n)).toNat <
      daysOf (monthLengths (isLeapYear (yearOfDay n))) := by
  have bounds := yearOfDay_bounds n
  rw [daysBeforeYear_succ] at bounds
  rw [daysOf_monthLengths]
  split at bounds <;> rename_i leap <;> simp only [leap] <;> simp <;> omega

/-- Every day number has a date that exists. -/
theorem ofDayNumber_valid (number : Int) : (ofDayNumber number).Valid := by
  have place := monthOfDay_spec _ (dayOfYear_lt (number + epochDay))
  exact ⟨place.1, place.2.1, place.2.2.1, place.2.2.2.1⟩

/-- The date with a day number has that number. -/
theorem dayNumber_ofDayNumber (number : Int) : (ofDayNumber number).dayNumber = number := by
  have bounds := yearOfDay_bounds (number + epochDay)
  have place := monthOfDay_spec _ (dayOfYear_lt (number + epochDay))
  simp only [dayNumber, ofDayNumber]
  omega

end Date

/-- The names of the days, from Sunday. -/
def weekdayNames : List String :=
  ["Sunday", "Monday", "Tuesday", "Wednesday", "Thursday", "Friday", "Saturday"]

/-- The day of the week with a given day number. The first day of 1970 was a Thursday. -/
def weekdayName (number : Int) : String := (weekdayNames[((number + 4) % 7).toNat]?).getD ""

end CloudOps
