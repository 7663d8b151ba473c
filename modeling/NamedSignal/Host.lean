import NamedSignal.Failure
import NamedSignal.Path

/-!
What the program can look at and act upon: a tree of process records, an
environment, and the way each process takes a signal. Paths are looked up as
they are spelled.
-/
namespace NamedSignal

/-- What opening and reading a record gives. -/
inductive Content where
  | bytes (content : List UInt8)
  | unopenable (errno : Errno)
  | unreadable (errno : Errno)
  deriving DecidableEq

/-- The process records of a host and its willingness to deliver. -/
structure Host where
  /-- The entries of a directory, in listing order. A path that no file can have is to a
  host one at which nothing is, so it is refused with an error number too. -/
  listing : Text → Except Errno (List Text)
  /-- What is behind a path that is opened. -/
  content : Text → Content
  /-- How a delivery to a process fails, if it does. -/
  fault : Int → Option DeliveryFault

/-- The values of the variables that are set. -/
abbrev Environment := Text → Option Text

/-- The variable that relocates the process records (`PROC_ROOT_ENV`). -/
def rootVariable : Text := Text.ofString "HOST_PROC"

/-- Where process records usually are (`DEFAULT_PROC_ROOT`). -/
def usualRoot : Text := Text.ofString "/proc"

/-- Where the process records are; an empty variable counts as unset. -/
def recordsRoot (environment : Environment) : Text :=
  match environment rootVariable with
  | some (first :: rest) => first :: rest
  | _ => usualRoot

/-- The records' root with parts behind it (`host_proc`). -/
def recordsPath (environment : Environment) (parts : List Text) : Text :=
  Path.join (recordsRoot environment) parts

end NamedSignal
