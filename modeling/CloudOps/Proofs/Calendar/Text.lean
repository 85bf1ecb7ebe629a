import CloudOps.Calendar.Instant
import CloudOps.Proofs.Text.Literal
import Mathlib.Tactic.SplitIfs

/-!
# Dates and times in text

* `Date.next`: the day after a day. `Date.CountsDays`: a numbering of dates counts the days of the
  calendar, as `Date.dayNumber` does (`Date.dayNumber_countsDays`).
* `Text.Numeral`: a number with zeros in front up to a width. `YearForm`: a year, which has a sign
  if it does not fit into four digits.
* `Instant.Shows`: a text that shows a date, a time of the day and a day of the week, with the
  seconds and nanoseconds that they stand for; `Instant.longText_shows`.
-/

namespace CloudOps

namespace Date

/-! ## Days in a row -/

/-- The day after a day. -/
def next (date : Date) : Date :=
  if date.day < monthLength (isLeapYear date.year) date.month then { date with day := date.day + 1 }
  else if date.month < 12 then ⟨date.year, date.month + 1, 1⟩
  else ⟨date.year + 1, 1, 1⟩

/-- The first day of 1970 has the number zero, and every day is followed by one with the next
number. -/
structure CountsDays (number : Date → Int) : Prop where
  epoch : number ⟨1970, 1, 1⟩ = 0
  next_valid : ∀ date : Date, date.Valid → date.next.Valid
  next : ∀ date : Date, date.Valid → number date.next = number date + 1

/-- A month begins where the one before it ends. -/
theorem daysBeforeMonth_succ (leap : Bool) : ∀ month < 12, 1 ≤ month →
    daysBeforeMonth leap (month + 1) = daysBeforeMonth leap month + monthLength leap month := by
  cases leap <;> decide

theorem monthLength_pos (leap : Bool) : ∀ month < 13, 1 ≤ month → 1 ≤ monthLength leap month := by
  cases leap <;> decide

/-- The last month ends the year. -/
theorem daysBeforeMonth_last (leap : Bool) :
    daysBeforeMonth leap 12 + monthLength leap 12 = if leap then 366 else 365 := by
  cases leap <;> rfl

theorem next_valid {date : Date} (valid : date.Valid) : date.next.Valid := by
  obtain ⟨first, last, low, high⟩ := valid
  unfold next
  split_ifs with within early
  · exact ⟨first, last, Nat.le_add_left 1 _, within⟩
  · exact ⟨Nat.le_add_left 1 _, early, Nat.le_refl 1,
      monthLength_pos _ _ (Nat.succ_lt_succ early) (Nat.le_add_left 1 _)⟩
  · exact ⟨Nat.le_refl 1, Nat.le_add_left 1 11, Nat.le_refl 1,
      monthLength_pos _ 1 (Nat.le_add_left 2 11) (Nat.le_refl 1)⟩

theorem dayNumber_next {date : Date} (valid : date.Valid) :
    date.next.dayNumber = date.dayNumber + 1 := by
  obtain ⟨first, last, low, high⟩ := valid
  unfold next
  split_ifs with within early
  · simp only [dayNumber]
    omega
  · have days := daysBeforeMonth_succ (isLeapYear date.year) _ early first
    simp only [dayNumber, days]
    omega
  · have december : date.month = 12 := by omega
    have days := daysBeforeMonth_last (isLeapYear date.year)
    have january : daysBeforeMonth (isLeapYear (date.year + 1)) 1 = 0 := rfl
    rw [december] at within high
    simp only [dayNumber, daysBeforeYear_succ, january, december]
    cases leap : isLeapYear date.year with
    | false =>
      rw [leap] at days within high
      simp only [Bool.false_eq_true, if_false] at days ⊢
      omega
    | true =>
      rw [leap] at days within high
      simp only [if_true] at days ⊢
      omega

/-- **Day numbers count the days.** -/
theorem dayNumber_countsDays : CountsDays dayNumber where
  epoch := by decide
  next_valid := fun _ valid => next_valid valid
  next := fun _ valid => dayNumber_next valid

end Date

/-! ## Numbers with zeros in front -/

namespace Text

/-- The text stands for the number, with zeros in front up to a width and not beyond. -/
structure Numeral (width n : Nat) (text : String) : Prop where
  value : readNat? text.toList = some n
  length : text.length = max width n.repr.length

theorem numeral_paddedText (width n : Nat) : Numeral width n (paddedText width n) where
  value := by
    rw [paddedText, String.toList_ofList, readNat?_eq_some_iff]
    refine ⟨⟨?_, ?_⟩, ?_⟩
    · simp [Nat.toDigits_ne_nil]
    · intro c member
      rcases List.mem_append.1 member with zero | digit
      · exact isDigit_of_mem_zeros zero
      · exact isDigit_of_mem_toDigits digit
    · rw [digitsValue_zeros_append, digitsValue_toDigits]
  length := by
    have digits : n.repr.length = (Nat.toDigits 10 n).length := by simp [Nat.repr]
    rw [paddedText, String.length_ofList, List.length_append, List.length_replicate, digits]
    omega

end Text

open Text (Numeral numeral_paddedText)

/-- A year in text: four digits, or a sign and at least four. -/
inductive YearForm : Int → String → Prop
  | plain {n : Nat} {digits : String} (small : n ≤ 9999) (form : Numeral 4 n digits) :
      YearForm n digits
  | later {n : Nat} {digits : String} (large : 9999 < n) (form : Numeral 4 n digits) :
      YearForm n ("+" ++ digits)
  | before {n : Nat} {digits : String} (some : 0 < n) (form : Numeral 4 n digits) :
      YearForm (-n) ("-" ++ digits)

namespace Instant

theorem yearText_form (year : Int) : YearForm year (yearText year) := by
  have form : Numeral 4 year.natAbs (Text.paddedText 4 year.natAbs) := numeral_paddedText _ _
  unfold yearText
  split_ifs with plain negative
  · have same : ((year.natAbs : Nat) : Int) = year := Int.natAbs_of_nonneg plain.1
    have shown := YearForm.plain (by omega) form
    rwa [same] at shown
  · have same : -((year.natAbs : Nat) : Int) = year := by omega
    have shown := YearForm.before (by omega) form
    rwa [same] at shown
  · have same : ((year.natAbs : Nat) : Int) = year := by omega
    have shown := YearForm.later (by omega) form
    rwa [same] at shown

/-! ## Instants -/

/-- The text shows a date, a time of the day and a day of the week, and they stand for these
seconds and nanoseconds since 1970. -/
inductive Shows (seconds : Int) (nanos : Nat) : String → Prop
  | fields {date : Date} {hour minute second : Nat} {year month day hours minutes rest : String}
      {weekday : String} (valid : date.Valid) (hour_lt : hour < 24) (minute_lt : minute < 60)
      (instant : date.dayNumber * 86400 + hour * 3600 + minute * 60 + min second 59 = seconds)
      (leap : second = 60 ↔ 1000000000 ≤ nanos) (second_le : second ≤ 60)
      (named : weekdayNames[((date.dayNumber + 4) % 7).toNat]? = some weekday)
      (years : YearForm date.year year) (months : Numeral 2 date.month month)
      (days : Numeral 2 date.day day) (hourly : Numeral 2 hour hours)
      (minutely : Numeral 2 minute minutes) (secondly : Numeral 2 second rest) :
      Shows seconds nanos (year ++ "-" ++ month ++ "-" ++ day ++ " " ++
        (hours ++ ":" ++ minutes ++ ":" ++ rest) ++ " " ++ weekday)

section Fields

variable (t : Instant)

theorem hour_lt : t.hour < 24 := by
  have := t.secondOfDay_lt
  rw [hour]
  omega

theorem minute_lt : t.minute < 60 := Nat.mod_lt _ (by decide)

theorem second_eq_iff : t.second = 60 ↔ 1000000000 ≤ t.nanos := by
  rw [second, isLeapSecond]
  by_cases leap : 1000000000 ≤ t.nanos
  · simp [leap]
  · simp only [leap, decide_false, Bool.false_eq_true, if_false, iff_false]
    omega

theorem second_le : t.second ≤ 60 := by
  rw [second]
  split
  · exact Nat.le_refl 60
  · omega

/-- A leap second counts as the second before it. -/
theorem min_second : min t.second 59 = t.secondOfDay % 60 := by
  rw [second]
  split
  case isTrue leap => rw [second_of_leap leap]; rfl
  case isFalse => omega

/-- The fields make up the seconds. -/
theorem fields_eq :
    t.date.dayNumber * 86400 + t.hour * 3600 + t.minute * 60 + min t.second 59 = t.seconds := by
  rw [date, Date.dayNumber_ofDayNumber, hour, minute, t.seconds_eq]
  have split := t.min_second
  omega

theorem weekdayName_named (number : Int) :
    weekdayNames[((number + 4) % 7).toNat]? = some (weekdayName number) := by
  have seven : weekdayNames.length = 7 := rfl
  have among : ((number + 4) % 7).toNat < weekdayNames.length := by omega
  rw [weekdayName, List.getElem?_eq_getElem among, Option.getD_some]

/-- **The printed form of an instant** shows it. -/
theorem longText_shows : Shows t.seconds t.nanos t.longText := by
  have named : weekdayNames[((t.date.dayNumber + 4) % 7).toNat]? =
      some (weekdayName t.dayNumber) := by
    rw [date, Date.dayNumber_ofDayNumber]
    exact weekdayName_named _
  exact .fields (Date.ofDayNumber_valid _) t.hour_lt t.minute_lt t.fields_eq t.second_eq_iff
    t.second_le named (yearText_form _) (numeral_paddedText _ _) (numeral_paddedText _ _)
    (numeral_paddedText _ _) (numeral_paddedText _ _) (numeral_paddedText _ _)

end Fields

end Instant

end CloudOps
