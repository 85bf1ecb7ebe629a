import CloudOps.Calendar.Instant

/-!
# Reading RFC 3339 time stamps

`Stamp.read?` reads a time stamp with any offset, as the listing of the buckets carries it, to
seconds and nanoseconds since 1970. The sixtieth second of the last minute of a month in UTC is
read as the last nanosecond before it.
-/

namespace CloudOps

namespace Stamp

/-- Seconds and nanoseconds since 1970. -/
structure Moment where
  seconds : Int
  nanos : Nat
  deriving DecidableEq, Repr

/-- A part of a text and what follows it. -/
abbrev Part (α : Type) := List Char → Option (α × List Char)

/-- A number of exactly so many digits. -/
def digits (count : Nat) : Part Nat := fun text => do
  let n ← Text.readNat? (text.take count)
  if (text.take count).length = count then some (n, text.drop count) else none

/-- A number of exactly so many digits, not above a bound. -/
def bounded (count bound : Nat) : Part Nat := fun text => do
  let (n, rest) ← digits count text
  if n ≤ bound then some (n, rest) else none

/-- One given character. -/
def mark (c : Char) : List Char → Option (List Char)
  | [] => none
  | d :: rest => if d = c then some rest else none

/-- The nanoseconds of the digits behind a point. More than nine are not looked at. -/
def fraction : Part Nat
  | '.' :: rest =>
    let places := rest.takeWhile Text.isDigit
    if places.isEmpty then none
    else some (Text.digitsValue ((places ++ List.replicate 9 '0').take 9),
      rest.dropWhile Text.isDigit)
  | text => some (0, text)

/-- Hours and minutes at the end of the text, in seconds. -/
def distance? (text : List Char) : Option Int := do
  let (hours, text) ← bounded 2 23 text
  let text ← mark ':' text
  let (minutes, text) ← bounded 2 59 text
  if text.isEmpty then some (hours * 3600 + minutes * 60) else none

/-- The distance to UTC in seconds, at the end of the text. -/
def offset? : List Char → Option Int
  | ['Z'] => some 0
  | ['z'] => some 0
  | '+' :: rest => distance? rest
  | '-' :: rest => (distance? rest).map fun seconds => -seconds
  | _ => none

/-- Date and time letter. -/
def dayPart : Part Date := fun text => do
  let (year, text) ← digits 4 text
  let text ← mark '-' text
  let (month, text) ← digits 2 text
  let text ← mark '-' text
  let (day, text) ← digits 2 text
  let text ← (mark 'T' text).or (mark 't' text)
  let date : Date := ⟨year, month, day⟩
  if date.Valid then some (date, text) else none

/-- The last second of a month in UTC. -/
def endsMonth (seconds : Int) : Bool :=
  decide (seconds % secondsPerDay = secondsPerDay - 1) &&
    decide ((Date.ofDayNumber (seconds / secondsPerDay + 1)).day = 1)

/-- The moment that a time stamp stands for. -/
def read? (text : String) : Option Moment := do
  let (date, text) ← dayPart text.toList
  let (hour, text) ← bounded 2 23 text
  let text ← mark ':' text
  let (minute, text) ← bounded 2 59 text
  let text ← mark ':' text
  let (second, text) ← bounded 2 60 text
  let (nanos, text) ← fraction text
  let offset ← offset? text
  let start : Int := date.dayNumber * secondsPerDay + hour * 3600 + minute * 60 - offset
  if second = 60 then
    if endsMonth (start + 59) then some ⟨start + 59, 999999999⟩ else none
  else some ⟨start + second, nanos⟩

end Stamp

end CloudOps
