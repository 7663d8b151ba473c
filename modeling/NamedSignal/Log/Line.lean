import NamedSignal.Calendar
import NamedSignal.Decimal
import NamedSignal.Log.Record
import NamedSignal.Text.Bytes
import NamedSignal.Text.Quoted

/-!
Records in writing. The console shows the time of day, the level and the
message; a file has the date and the milliseconds too, and says where the
record comes from. The fields stand in columns. A file takes well-formed lines
only, and about a record without one there may be a report.
-/
namespace NamedSignal.Log

/-- What stands between the fields of a line. -/
def fieldMark : Text := Text.ofString " | "

/-- Fields as a line. -/
def line (fields : List Text) : Text := Text.joinWith fieldMark fields ++ [.char '\n']

/-- The milliseconds since the last whole second, counted toward zero. -/
def milliseconds (now : Float) : Int :=
  Decimal.truncate ((now - Float.ofInt (Decimal.truncate now)) * 1000)

/-- Three figures, a sign counting as one. -/
def threeFigures (n : Int) : Text :=
  if n < 0 then .char '-' :: Calendar.zeroPadded 2 n.natAbs else Calendar.zeroPadded 3 n.natAbs

/-- The level in its column. -/
def levelField (r : Record) : Text := r.level.name.padTo 8

/-- A record on the console (`SIMPLE_FORMAT`). -/
def consoleLine (now : Float) (r : Record) : Text :=
  let (_, time) := Calendar.ofEpoch (Decimal.floor now)
  line [time.toText, levelField r, r.message]

/-- A record in a file (`DETAILED_FORMAT`). -/
def fileLine (now : Float) (r : Record) : Text :=
  let (date, time) := Calendar.ofEpoch (Decimal.floor now)
  let stamp := Text.concat [date.toText, " ", time.toText, ".", threeFigures (milliseconds now)]
  line [stamp, levelField r, r.logger.padTo 30, r.function.padTo 20, r.message]

/-- The bytes of a record in a file, if its line is well formed. -/
def lineBytes? (now : Float) (r : Record) : Option (List UInt8) :=
  Utf8.encodeStrict? (fileLine now r)

/-- The report on a record that a file could not take, with a trace of how it was put
in (`handleError`). It has no level, and the message stands in it between quotes. -/
def lossReport (trace : Text) (r : Record) : Text :=
  Text.concat ["--- Logging error ---\n", trace, "Message: ", r.message.quoted,
    "\nArguments: ()\n"]

end NamedSignal.Log
