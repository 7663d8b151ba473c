import NamedSignal.Numeral

/-!
Days, dates and times of day in the proleptic Gregorian calendar. Days are
counted from 1970-01-01; years are grouped by four centuries, whose days are
always the same in number.
-/
namespace NamedSignal.Calendar

structure Date where
  year : Int
  month : Nat
  day : Nat
  deriving DecidableEq

structure TimeOfDay where
  hour : Nat
  minute : Nat
  second : Nat
  deriving DecidableEq

/-- A year with a twenty-ninth of February. -/
def isLeap (year : Int) : Bool :=
  year % 4 == 0 && (year % 100 != 0 || year % 400 == 0)

/-- How many days a month has. -/
def daysIn (year : Int) (month : Nat) : Nat :=
  match month with
  | 2 => if isLeap year then 29 else 28
  | 4 | 6 | 9 | 11 => 30
  | _ => 31

/-- The day is one of its month, and the year one that can be written. -/
def Date.isValid (d : Date) : Bool :=
  1 ≤ d.year && d.year ≤ 9999 && 1 ≤ d.month && d.month ≤ 12 &&
    1 ≤ d.day && d.day ≤ daysIn d.year d.month

/-- Days from 1970-01-01, counting years from March so that the leap day ends
a year. -/
def Date.toDays (d : Date) : Int :=
  let year := if d.month ≤ 2 then d.year - 1 else d.year
  let era := Int.fdiv year 400
  let yearOfEra := year - era * 400
  let month : Int := if d.month ≤ 2 then d.month + 9 else d.month - 3
  let dayOfYear := (153 * month + 2) / 5 + d.day - 1
  let dayOfEra := yearOfEra * 365 + yearOfEra / 4 - yearOfEra / 100 + dayOfYear
  era * 146097 + dayOfEra - 719468

/-- The date of a day counted from 1970-01-01. -/
def Date.ofDays (days : Int) : Date :=
  let shifted := days + 719468
  let era := Int.fdiv shifted 146097
  let dayOfEra := shifted - era * 146097
  let yearOfEra := (dayOfEra - dayOfEra / 1460 + dayOfEra / 36524 - dayOfEra / 146096) / 365
  let dayOfYear := dayOfEra - (365 * yearOfEra + yearOfEra / 4 - yearOfEra / 100)
  let month := (5 * dayOfYear + 2) / 153
  let day := dayOfYear - (153 * month + 2) / 5 + 1
  let year := yearOfEra + era * 400
  { year := if month < 10 then year else year + 1
    month := (if month < 10 then month + 3 else month - 9).toNat
    day := day.toNat }

/-- The time of day of a second counted from midnight. -/
def TimeOfDay.ofSeconds (seconds : Nat) : TimeOfDay :=
  { hour := seconds / 3600, minute := seconds / 60 % 60, second := seconds % 60 }

/-- A number filled up with zeros to a width. -/
def zeroPadded (width : Nat) (n : Nat) : Text :=
  let digits := Nat.toDigits 10 n
  (List.replicate (width - digits.length) '0' ++ digits).map .char

/-- Year, month and day joined by hyphens. -/
def Date.toText (d : Date) : Text :=
  Text.concat [zeroPadded 4 d.year.toNat, "-", zeroPadded 2 d.month, "-", zeroPadded 2 d.day]

/-- Hour, minute and second joined by colons. -/
def TimeOfDay.toText (t : TimeOfDay) : Text :=
  Text.concat [zeroPadded 2 t.hour, ":", zeroPadded 2 t.minute, ":", zeroPadded 2 t.second]

/-- The date and the time of day of a second counted from 1970-01-01. -/
def ofEpoch (seconds : Int) : Date × TimeOfDay :=
  let days := Int.fdiv seconds 86400
  (Date.ofDays days, TimeOfDay.ofSeconds (seconds - days * 86400).toNat)

end NamedSignal.Calendar
