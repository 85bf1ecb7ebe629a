import CloudOps.Calendar.Date

/-!
# Instants

Seconds since 1970 with a part of a second, as services give the date of a bucket.

* `Instant.ofEpoch?`: the instant with given seconds and nanoseconds, if it is one. A leap second
  is the last second of a minute with a thousand million nanoseconds more.
* `Instant.date`, `hour`, `minute`, `second`: its fields in UTC. A leap second is second 60.
* `Instant.longText`: date, time and day of the week; `Instant.stampText`: the RFC 3339 form.
-/

namespace CloudOps

/-- The seconds of a day. -/
def secondsPerDay : Int := 86400

/-- The first year that an instant may lie in. -/
def firstYear : Int := -262143

/-- The last year that an instant may lie in. -/
def lastYear : Int := 262142

/-- Whether seconds and nanoseconds since 1970 make an instant. -/
def isInstant (seconds : Int) (nanos : Nat) : Bool :=
  decide ((Date.mk firstYear 1 1).dayNumber ≤ seconds / secondsPerDay) &&
  decide (seconds / secondsPerDay ≤ (Date.mk lastYear 12 31).dayNumber) &&
  decide (nanos < 2000000000) &&
  (decide (nanos < 1000000000) || decide (seconds % 60 = 59))

/-- A point in time. -/
structure Instant where
  seconds : Int
  nanos : Nat
  exact : isInstant seconds nanos = true
  deriving DecidableEq

namespace Instant

/-- The instant with these seconds and nanoseconds since 1970, if it is one. -/
def ofEpoch? (seconds : Int) (nanos : Nat) : Option Instant :=
  if h : isInstant seconds nanos = true then some ⟨seconds, nanos, h⟩ else none

/-- The time lies in a leap second. -/
def isLeapSecond (t : Instant) : Bool := decide (1000000000 ≤ t.nanos)

/-- The number of the day. -/
def dayNumber (t : Instant) : Int := t.seconds / secondsPerDay

/-- The date in UTC. -/
def date (t : Instant) : Date := Date.ofDayNumber t.dayNumber

/-- The second of the day. -/
def secondOfDay (t : Instant) : Nat := (t.seconds % secondsPerDay).toNat

/-- The hour of the day. -/
def hour (t : Instant) : Nat := t.secondOfDay / 3600

/-- The minute of the hour. -/
def minute (t : Instant) : Nat := t.secondOfDay / 60 % 60

/-- The second of the minute, 60 in a leap second. -/
def second (t : Instant) : Nat := if t.isLeapSecond then 60 else t.secondOfDay % 60

/-- The nanoseconds within the second. -/
def fraction (t : Instant) : Nat := t.nanos % 1000000000

/-! ## Text -/

/-- A year with four digits, or with a sign and at least four digits. -/
def yearText (year : Int) : String :=
  if 0 ≤ year ∧ year ≤ 9999 then Text.paddedText 4 year.natAbs
  else (if year < 0 then "-" else "+") ++ Text.paddedText 4 year.natAbs

/-- Year, month and day. -/
def dateText (t : Instant) : String :=
  yearText t.date.year ++ "-" ++ Text.paddedText 2 t.date.month ++ "-"
    ++ Text.paddedText 2 t.date.day

/-- Hour, minute and second. -/
def timeText (t : Instant) : String :=
  Text.paddedText 2 t.hour ++ ":" ++ Text.paddedText 2 t.minute ++ ":"
    ++ Text.paddedText 2 t.second

/-- Date, time and day of the week. -/
def longText (t : Instant) : String :=
  t.dateText ++ " " ++ t.timeText ++ " " ++ weekdayName t.dayNumber

/-- The RFC 3339 form in UTC, with nine decimals of the second. -/
def stampText (t : Instant) : String :=
  t.dateText ++ "T" ++ t.timeText ++ "." ++ Text.paddedText 9 t.fraction ++ "Z"

/-! ## Fields -/

theorem ofEpoch?_eq_some_iff {seconds : Int} {nanos : Nat} {t : Instant} :
    ofEpoch? seconds nanos = some t ↔ t.seconds = seconds ∧ t.nanos = nanos := by
  unfold ofEpoch?
  split
  · rename_i h
    constructor
    · intro eq
      cases eq
      exact ⟨rfl, rfl⟩
    · rintro ⟨rfl, rfl⟩
      rfl
  · rename_i h
    constructor
    · intro eq
      cases eq
    · rintro ⟨rfl, rfl⟩
      exact absurd t.exact h

theorem secondOfDay_lt (t : Instant) : t.secondOfDay < 86400 := by
  have := Int.emod_lt_of_pos t.seconds (show (0 : Int) < secondsPerDay by decide)
  have := Int.emod_nonneg t.seconds (show secondsPerDay ≠ 0 by decide)
  simp only [secondOfDay, secondsPerDay] at *
  omega

/-- Day and second of the day make up the seconds. -/
theorem seconds_eq (t : Instant) : t.seconds = t.dayNumber * 86400 + t.secondOfDay := by
  simp only [dayNumber, secondOfDay, secondsPerDay]
  omega

/-- A leap second stands at the end of a minute. -/
theorem second_of_leap {t : Instant} (h : t.isLeapSecond = true) : t.secondOfDay % 60 = 59 := by
  have exact := t.exact
  simp only [isLeapSecond, decide_eq_true_eq] at h
  simp only [isInstant, Bool.and_eq_true, Bool.or_eq_true, decide_eq_true_eq] at exact
  have := t.seconds_eq
  omega

end Instant

end CloudOps
