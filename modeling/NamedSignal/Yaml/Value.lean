import NamedSignal.Calendar
import NamedSignal.Decimal.Shortest
import NamedSignal.Text.Quoted

/-!
Values of scalars (the safe constructor of `PyYAML`). Truth values, whole numbers and
doubles are compared as numbers, exactly; moments with an offset are compared as
instants. Values of other kinds are neither equal nor in any order.
-/
namespace NamedSignal.Yaml

/-- A date with a time of day, counted from a fixed offset from universal time
if that is known. -/
structure Moment where
  date : Calendar.Date
  time : Calendar.TimeOfDay
  microsecond : Nat
  /-- Minutes ahead of universal time. -/
  offset : Option Int
  deriving DecidableEq

inductive Value where
  | null
  | bool (value : Bool)
  | int (value : Int)
  | float (value : Float)
  /-- A double that is no number. It equals nothing but itself, known by where
  it comes from. -/
  | undefined (origin : Nat)
  | text (value : Text)
  | bytes (value : List UInt8)
  | date (value : Calendar.Date)
  | moment (value : Moment)
  /-- A collection of any kind; what it holds is kept elsewhere. -/
  | collection
  deriving DecidableEq

namespace Moment

/-- Microseconds from 1970-01-01, by the clock of the offset. -/
def reading (m : Moment) : Int :=
  let seconds := m.date.toDays * 86400 + m.time.hour * 3600 + m.time.minute * 60 + m.time.second
  seconds * 1000000 + m.microsecond

/-- The instant, or what the clock shows where there is no offset. -/
def instant (m : Moment) : Int := m.reading - m.offset.getD 0 * 60000000

/-- A moment in writing. -/
def toText (m : Moment) : Text :=
  let fraction := if m.microsecond == 0 then []
    else Text.concat [".", Calendar.zeroPadded 6 m.microsecond]
  let offset := match m.offset with
    | none => []
    | some minutes =>
      Text.concat [if minutes < 0 then "-" else "+", Calendar.zeroPadded 2 (minutes.natAbs / 60),
        ":", Calendar.zeroPadded 2 (minutes.natAbs % 60)]
  Text.concat [m.date.toText, " ", m.time.toText, fraction, offset]

end Moment

/-- A number as a multiple of a power of two, or beyond all of them. -/
inductive Exact where
  | below
  | at (multiple exponent : Int)
  | above

/-- Compare exact numbers. -/
def Exact.compare : Exact → Exact → Ordering
  | below, below | above, above => .eq
  | below, _ | _, above => .lt
  | _, below | above, _ => .gt
  | .at a i, .at b j =>
    let least := min i j
    Ord.compare (a * Decimal.power 2 (i - least)) (b * Decimal.power 2 (j - least))

namespace Value

/-- Kinds of values that have an order among themselves. -/
inductive Kind where
  | number
  | text
  | bytes
  | date
  | clock
  | instant
  deriving DecidableEq

/-- The kind of a value; some have no order. -/
def kind? : Value → Option Kind
  | bool _ | int _ | float _ | undefined _ => some .number
  | text _ => some .text
  | bytes _ => some .bytes
  | date _ => some .date
  | moment m => some (if m.offset.isSome then .instant else .clock)
  | null | collection => none

/-- The number a value is. -/
def number? : Value → Option Exact
  | bool b => some (.at (if b then 1 else 0) 0)
  | int n => some (.at n 0)
  | float x =>
    match Decimal.Double.ofFloat x with
    | .undefined => none
    | .infinite negative => some (if negative then .below else .above)
    | .finite negative m =>
      some (.at (if negative then -(m.significand : Int) else m.significand) m.exponent)
  | _ => none

/-- Compare two values of one kind. -/
def compare? (a b : Value) : Option Ordering :=
  match a, b with
  | text s, text t => some (compare (s.map Symbol.code) (t.map Symbol.code))
  | bytes s, bytes t => some (compare (s.map UInt8.toNat) (t.map UInt8.toNat))
  | date d, date e => some (compare d.toDays e.toDays)
  | moment m, moment n =>
    if m.offset.isSome == n.offset.isSome then some (compare m.instant n.instant) else none
  | a, b =>
    match a.number?, b.number? with
    | some x, some y => some (x.compare y)
    | _, _ => none

/-- Two keys are one. -/
def same : Value → Value → Bool
  | null, null => true
  | undefined a, undefined b => a == b
  | a, b => a.compare? b == some .eq

/-- The value can be a key. -/
def isKey : Value → Bool
  | collection => false
  | _ => true

/-- Values in their order, if they have one. A value alone needs none. -/
def sort? (values : List Value) : Option (List Value) :=
  match values with
  | [] | [_] => some values
  | first :: rest =>
    if first.kind?.isSome && rest.all (fun v => v.kind? == first.kind?) then
      some (values.mergeSort fun a b => b.compare? a != some .lt)
    else none

/-- A byte between quotes. -/
def quoteByte (mark : Char) (b : UInt8) : List Char :=
  let c := Char.ofNat b.toNat
  if c == mark || c == '\\' then ['\\', c]
  else if c == '\t' then ['\\', 't']
  else if c == '\n' then ['\\', 'n']
  else if c == '\r' then ['\\', 'r']
  else if b < 0x20 || 0x7F ≤ b then '\\' :: 'x' :: Text.hexadecimal 2 b.toNat
  else [c]

/-- Bytes between quotes, with a letter that tells them from text. -/
def quotedBytes (bytes : List UInt8) : Text :=
  let mark := if bytes.contains 0x27 && !bytes.contains 0x22 then '"' else '\x27'
  ('b' :: mark :: bytes.flatMap (quoteByte mark) ++ [mark]).map .char

/-- The value in words, unless it is a number with too many digits. -/
def toText? : Value → Option Text
  | null => some "None"
  | bool b => some (if b then "True" else "False")
  | int n => Numeral.text? n
  | float x => some (Decimal.shortest x)
  | undefined _ => some "nan"
  | text t => some t
  | bytes b => some (quotedBytes b)
  | date d => some d.toText
  | moment m => some m.toText
  | collection => none

end Value
end NamedSignal.Yaml
