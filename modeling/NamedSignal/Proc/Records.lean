import NamedSignal.Failure
import NamedSignal.Numeral
import NamedSignal.Path
import NamedSignal.Text.Bytes

/-!
The records of a process. A status record has lines of a key, colons, a tab and a
value; a command line record has arguments, each with a NUL behind it. The status
record keeps the first bytes of a name only, and the arguments then tell how the name
goes on. A process is listed by its number in ASCII digits.
-/
namespace NamedSignal.Proc

/-- Keys and values, each key once and in the order of first appearance. -/
abbrev Status := List (Text × Text)

namespace Status

/-- The key of the process name. -/
def nameKey : Text := Text.ofString "Name"

/-- A space or a tab. -/
def isBlank (s : Symbol) : Bool := s == .char ' ' || s == .char '\t'

/-- Give a key a value. -/
def set (fields : Status) (key value : Text) : Status :=
  if fields.any (·.1 == key) then
    fields.map fun field => if field.1 == key then (key, value) else field
  else fields ++ [(key, value)]

/-- The key and the value of a line that has a tab. -/
def field? (line : Text) : Option (Text × Text) :=
  match line.dropWhile (· != .char '\t') with
  | [] => none
  | _ :: value =>
    let key := Text.trimEnd (· == .char ':') (line.takeWhile (· != .char '\t'))
    some (key, if key == nameKey then Text.trim isBlank value else value)

/-- The fields of a text, line by line. -/
def ofText (content : Text) : Status :=
  ((content.splitOn (.char '\n')).filterMap field?).foldl
    (fun fields field => fields.set field.1 field.2) []

/-- The fields of a record (`parse_status`). -/
def parse (content : List UInt8) : Status := ofText (Utf8.decode content)

/-- The process name, empty where the record has none. -/
def name (fields : Status) : Text := (fields.lookup nameKey).getD []

end Status

namespace Arguments

/-- The pieces of a record as bytes. -/
def pieces (content : List UInt8) : List (List UInt8) :=
  if content.isEmpty then []
  else (if content.getLast? == some 0 then content.dropLast else content).splitOn 0

/-- The arguments of a record (`parse_cmdline`). -/
def parse (content : List UInt8) : List Text := (pieces content).map Utf8.decode

end Arguments

/-- The number of bytes a status record keeps of a name (`TRUNCATED_NAME_LENGTH`). -/
def keptBytes : Nat := 15

/-- The name fills the room it has, so it may have been cut. -/
def mayBeCut (name : Text) : Bool := keptBytes ≤ (Utf8.encode name).length

/-- The name to show for a process whose recorded name may have been cut
(`recover_truncated_name`). -/
def recoverName (name : Text) (arguments : List Text) : Text :=
  match arguments with
  | [] => name
  | first :: _ =>
    if name.isPrefixOf (Path.baseName first) then Path.baseName first else first

/-- The largest process number (`MAX_PID`). -/
def maxPid : Nat := 0x7FFFFFFF

/-- The process number a directory entry stands for (`parse_pid`). -/
def pid? (entry : Text) : Except Failure (Option Int) :=
  if entry.isEmpty || !entry.all (fun s => s.code < 0x80 && s.decimal?.isSome) then .ok none
  else match Numeral.decimal? entry with
  | none => .error .numeralTooLong
  | some n => .ok (if n ≤ maxPid then some (n : Int) else none)

end NamedSignal.Proc
