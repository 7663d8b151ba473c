import NamedSignal.Log.Line
import NamedSignal.Workspace

/-!
Where records go. A logbook has handlers, which are attached once: a console that
shows records from a level on, and maybe a file that keeps all of them. Before that
only the messages of loud records are shown. A record that has no well-formed line is
left out of the file, and the host may report that (`setup_logging`).
-/
namespace NamedSignal.Log

/-- What takes records (`StreamHandler`, `FileHandler`). -/
inductive Handler where
  /-- Shows the records from a level on. -/
  | console (level : Level)
  /-- Keeps all records. -/
  | file (place : Place)
  deriving DecidableEq

/-- Where records go, and the files they go to. -/
structure Logbook where
  /-- What takes records, in the order in which it was attached. -/
  handlers : List Handler := []
  workspace : Workspace
  /-- The time of records. -/
  now : Float
  /-- How the host traces a record that a file could not take, if it reports such
  records at all (`raiseExceptions`). -/
  trace? : Option (Record → Text) := none

/-- Why a logbook could not be set up. -/
inductive SetUpFault where
  | refused (errno : Errno) (path : Text)
  /-- No file can have the path. -/
  | unusablePath
  /-- The path has no bytes. -/
  | unencodablePath
  /-- What is given is no path at all. -/
  | notPath
  deriving DecidableEq

/-- Why no file can have a path with these components. -/
def componentFault? (components : List Text) : Option SetUpFault :=
  if components.any (·.any (!Utf8.isEncodable ·)) then some .unencodablePath
  else if components.any (·.contains (.char '\x00')) then some .unusablePath
  else none

/-- Open a file for records, with the directories above it. What was made before a
failure stays. -/
def openFile (workspace : Workspace) (path : Path.Normal) : Except SetUpFault Place × Workspace :=
  match componentFault? path.components.dropLast with
  | some fault => (.error fault, workspace)
  | none =>
    match workspace.assureDirectories path.parent with
    | (.error refusal, workspace) =>
      (.error (.refused refusal.errno refusal.path.toText), workspace)
    | (.ok (), workspace) =>
      match componentFault? path.components with
      | some fault => (.error fault, workspace)
      | none =>
        let absolute := workspace.absolute path
        match workspace.openAppend absolute with
        | .error errno => (.error (.refused errno absolute.toText), workspace)
        | .ok (place, workspace) => (.ok place, workspace)

namespace Logbook

/-- The logbook has been set up. -/
def isSetUp (book : Logbook) : Bool := !book.handlers.isEmpty

/-- Records below this level are dropped. -/
def threshold (book : Logbook) : Level := if book.isSetUp then .debug else .warning

/-- The report on a record that a file could not take. -/
def report (book : Logbook) (r : Record) : Text :=
  match book.trace? with
  | some trace => lossReport (trace r) r
  | none => []

/-- What is shown when a handler takes a record. -/
def shownBy (book : Logbook) (r : Record) : Handler → Text
  | .console level => if level ≤ r.level then consoleLine book.now r else []
  | .file _ => if (lineBytes? book.now r).isSome then [] else book.report r

/-- What is shown of a record that is not dropped. Where nothing takes it that is its
message. -/
def shown (book : Logbook) (r : Record) : Text :=
  if book.isSetUp then book.handlers.flatMap (book.shownBy r) else r.message ++ [.char '\n']

/-- The files when a handler has taken a record. -/
def keptBy (book : Logbook) (r : Record) (workspace : Workspace) : Handler → Workspace
  | .console _ => workspace
  | .file place =>
    match lineBytes? book.now r with
    | some bytes => workspace.append place bytes
    | none => workspace

/-- Take a record; the text is what is shown. -/
def enter (book : Logbook) (r : Record) : Text × Logbook :=
  if r.level < book.threshold then ([], book)
  else
    (book.shown r, { book with workspace := book.handlers.foldl (book.keptBy r) book.workspace })

/-- Take records in order. -/
def enterAll (book : Logbook) : List Record → Text × Logbook
  | [] => ([], book)
  | r :: rest =>
    let first := book.enter r
    let later := first.2.enterAll rest
    (first.1 ++ later.1, later.2)

/-- Put a handler behind those that are there. -/
def attach (book : Logbook) (handler : Handler) : Logbook :=
  { book with handlers := book.handlers ++ [handler] }

@[simp] theorem attach_handlers (book : Logbook) (handler : Handler) :
    (book.attach handler).handlers = book.handlers ++ [handler] := rfl

@[simp] theorem attach_workspace (book : Logbook) (handler : Handler) :
    (book.attach handler).workspace = book.workspace := rfl

/-- The record that begins a file. -/
def opening (path : Path.Normal) : Record :=
  ⟨.debug, rootLogger, Text.ofString "setup_logging",
    Text.concat ["Logging initialized. Log file: ", path.toText]⟩

/-- Set a logbook up; one that has handlers stays as it is (`setup_logging`). The console
comes first and stays if the file cannot be opened. -/
def setUp (book : Logbook) (level : Level) (file : Option Text) :
    Except SetUpFault Unit × Text × Logbook :=
  if book.isSetUp then (.ok (), [], book)
  else
    let book := book.attach (.console level)
    match file with
    | none => (.ok (), [], book)
    | some file =>
      let path := Path.Normal.ofText file
      match openFile book.workspace path with
      | (.error fault, workspace) => (.error fault, [], { book with workspace })
      | (.ok place, workspace) =>
        (.ok (), ({ book with workspace }.attach (.file place)).enter (opening path))

end Logbook
end NamedSignal.Log
