import NamedSignal.Yaml.Character
import NamedSignal.Yaml.Value

/-!
Dates and moments written as scalars. A fraction of a second is cut after six
places, and an offset must be less than a day.
-/
namespace NamedSignal.Yaml.Moment

/-- A number of some digits, and what follows it. -/
def number? (least most : Nat) (ahead : List Char) : Option (Nat × List Char) :=
  let digits := (ahead.take most).takeWhile Char.isDigit
  if digits.length < least then none
  else some (digits.foldl (fun n c => n * 10 + (c.toNat - '0'.toNat)) 0, ahead.drop digits.length)

/-- What follows a given character. -/
def behind? (c : Char) : List Char → Option (List Char)
  | first :: rest => if first == c then some rest else none
  | [] => none

/-- The text has come to its end, one line break aside. -/
def isEnd (ahead : List Char) : Bool := ahead.isEmpty || ahead == ['\n']

/-- What stands between a date and a time: a letter or blanks. -/
def separator? : List Char → Option (List Char)
  | 'T' :: rest | 't' :: rest => some rest
  | c :: rest =>
    if c == ' ' || c == '\t' then some (rest.dropWhile fun c => c == ' ' || c == '\t') else none
  | [] => none

/-- Microseconds from the digits of a fraction. -/
def microseconds (digits : List Char) : Nat :=
  (digits ++ List.replicate 6 '0').take 6 |>.foldl (fun n c => n * 10 + (c.toNat - '0'.toNat)) 0

/-- A fraction, if there is one, and what follows it. -/
def takeFraction : List Char → Nat × List Char
  | '.' :: rest => (microseconds (rest.takeWhile Char.isDigit), rest.dropWhile Char.isDigit)
  | ahead => (0, ahead)

/-- Minutes, behind a colon, at the end of an offset. -/
def offsetMinutes? (ahead : List Char) : Option Nat :=
  if isEnd ahead then some 0
  else do
    let (minutes, rest) ← number? 2 2 (← behind? ':' ahead)
    if isEnd rest then some minutes else none

/-- The offset at the end of a moment, if there is one. -/
def offset? (ahead : List Char) : Option (Option Int) :=
  if isEnd ahead then some none
  else match ahead.dropWhile fun c => c == ' ' || c == '\t' with
  | 'Z' :: rest => if isEnd rest then some (some 0) else none
  | c :: rest =>
    if c != '+' && c != '-' then none
    else do
      let (hours, rest) ← number? 1 2 rest
      let minutes ← offsetMinutes? rest
      let total : Int := hours * 60 + minutes
      return some (if c == '-' then -total else total)
  | [] => none

/-- The time of day and what follows it on the clock. -/
def clock? (date : Calendar.Date) (ahead : List Char) : Option Moment := do
  let (hour, ahead) ← number? 1 2 (← separator? ahead)
  let (minute, ahead) ← number? 2 2 (← behind? ':' ahead)
  let (second, ahead) ← number? 2 2 (← behind? ':' ahead)
  let (microsecond, ahead) := takeFraction ahead
  let offset ← offset? ahead
  return { date, time := { hour, minute, second }, microsecond, offset }

/-- The date at the start, and what follows it. -/
def date? (ahead : List Char) : Option (Calendar.Date × List Char) := do
  let (year, ahead) ← number? 4 4 ahead
  let (month, ahead) ← number? 1 2 (← behind? '-' ahead)
  let (day, ahead) ← number? 1 2 (← behind? '-' ahead)
  return ({ year, month, day }, ahead)

/-- The moment is one that a calendar and a clock can show. -/
def isValid (m : Moment) : Bool :=
  m.date.isValid && m.time.hour < 24 && m.time.minute < 60 && m.time.second < 60 &&
    m.offset.all fun minutes => minutes.natAbs < 1440

/-- The date or the moment that a scalar stands for. -/
def ofText (t : Text) : Except Fault Value :=
  match t.chars?.bind date? with
  | none => .error .notMoment
  | some (date, rest) =>
    if isEnd rest then
      if date.isValid then .ok (.date date) else .error .outOfRange
    else match clock? date rest with
    | none => .error .notMoment
    | some moment => if moment.isValid then .ok (.moment moment) else .error .outOfRange

end NamedSignal.Yaml.Moment
