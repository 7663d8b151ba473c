import NamedSignal.Program
import Std.Time.DateTime.Timestamp

/-!
The program on the host it runs on. The host is looked at as far as the program
asks: it runs on what is known, the first record it misses is fetched, and it
runs again until it misses none. What it then shows and writes is shown and
written. Signals cannot be sent from here, so every delivery is refused as not
implemented.
-/
namespace NamedSignal.Terminal

/-- The refusal of a call that the host does not offer. -/
def notImplemented : Errno := ⟨38⟩

/-- The error number behind a failure of the host. -/
def errnoOf : IO.Error → Errno
  | .noFileOrDirectory .. | .noSuchThing .. => .notFound
  | .permissionDenied .. => ⟨13⟩
  | .inappropriateType .. => .notDirectory
  | .illegalOperation .. => .notPermitted
  | _ => .inputOutput

/-- The path as the host takes it, if it is one. -/
def native? (path : Text) : Option String :=
  path.chars?.bind fun chars =>
    if chars.isEmpty || chars.contains '\x00' then none else some (String.ofList chars)

/-- Records fetched so far. -/
structure Known where
  listings : List (Text × Except Errno (List Text)) := []
  contents : List (Text × Content) := []

/-- The host as far as it is known. -/
def Known.host (known : Known) : Host where
  listing path := (known.listings.lookup path).getD (.error .notFound)
  content path := (known.contents.lookup path).getD (.unopenable .notFound)
  fault _ := some (.refused notImplemented)

/-- A path that has been asked for and is not known. -/
def Known.misses (known : Known) : Event → Bool
  | .listed path => (known.listings.lookup path).isNone
  | .opened path => (known.contents.lookup path).isNone
  | _ => false

/-- Look at a directory. -/
def list (path : Text) : IO (Except Errno (List Text)) := do
  match native? path with
  | none => return .error .notFound
  | some path =>
    try
      let entries ← ((← IO.currentDir) / path).readDir
      return .ok (entries.toList.map fun entry => Text.ofString entry.fileName)
    catch error => return .error (errnoOf error)

/-- Look at a file. -/
def content (path : Text) : IO Content := do
  match native? path with
  | none => return .unopenable .notFound
  | some path =>
    try return .bytes (← IO.FS.readBinFile path).toList
    catch error => return .unopenable (errnoOf error)

/-- Fetch what an event asks for. -/
def Known.fetch (known : Known) : Event → IO Known
  | .listed path => return { known with listings := (path, ← list path) :: known.listings }
  | .opened path => return { known with contents := (path, ← content path) :: known.contents }
  | _ => return known

/-- Fetch all that an operation asks for. -/
partial def fetchAll (events : Host → List Event) (known : Known) : IO Known := do
  match (events known.host).find? known.misses with
  | none => return known
  | some event => fetchAll events (← known.fetch event)

/-- Every beginning of a path, the whole path last. -/
def beginnings (path : Path.Normal) : List Path.Normal :=
  (List.range path.components.length).map fun n =>
    { path with components := path.components.take (n + 1) }

/-- Add what is at a path to a tree. -/
def survey (workspace : Workspace) (path : Path.Normal) : IO Workspace :=
  (beginnings path).foldlM (fun workspace path => do
    match workspace.locate path, native? path.toText with
    | .ok place, some name =>
      let native := (← IO.currentDir) / name
      if ← native.isDir then
        return { workspace with directories := place :: workspace.directories }
      else if ← native.pathExists then
        let bytes ← IO.FS.readBinFile native
        return { workspace with files := (place, bytes.toList) :: workspace.files }
      else return workspace
    | _, _ => return workspace) workspace

/-- The words that are given as values. -/
def given : Option Argument → List Text
  | some (.word word) => [word]
  | _ => []

/-- The part of the tree that a command line is about. -/
def surveyFor (workspace : Workspace) (line : List Text) : IO Workspace := do
  match Options.parse line with
  | .ok (.run options) =>
    let surveyAll := List.foldlM fun workspace word => survey workspace (Path.Normal.ofText word)
    let workspace ← surveyAll workspace (given options.flags.config)
    match Program.plan workspace options with
    | .ok plan => surveyAll workspace (given plan.logFile)
    | .error _ => return workspace
  | _ => return workspace

/-- A place as the host names it. -/
def nativePlace (place : Place) : Option String :=
  native? (Path.slash :: Text.joinWith [Path.slash] place)

/-- Bring the files of the host up to a later tree. -/
def writeChanges (before after : Workspace) : IO Unit := do
  for place in after.directories do
    if !before.directories.contains place then
      if let some name := nativePlace place then IO.FS.createDirAll name
  for (place, bytes) in after.files do
    let old := before.file? place
    if old != some bytes then
      if let some name := nativePlace place then
        let handle ← IO.FS.Handle.mk name .append
        handle.write (ByteArray.mk (bytes.drop (old.getD []).length).toArray)

/-- A fault that escapes, in words. -/
def escapeText : Program.Escape → Text
  | .settings _ => Text.ofString "unusable settings"
  | .logbook (.refused errno path) => Failure.hostMessage errno errno.sentence (some path)
  | .logbook _ => Text.ofString "unusable log file"
  | .pass failure => failure.message

/-- Seconds from a number of nanoseconds. -/
def seconds (nanoseconds : Nat) : Float := Float.ofNat nanoseconds / 1000000000

/-- Run the program with the words of its command line. -/
def run (line : List Text) : IO UInt32 := do
  let home := Path.Normal.ofText (Text.ofString (← IO.currentDir).toString)
  let bare : Workspace :=
    { home, directories := (beginnings home).map (·.components), files := [] }
  let workspace ← surveyFor bare line
  let root ← IO.getEnv "HOST_PROC"
  let environment : Environment := fun name =>
    if name == rootVariable then root.map Text.ofString else none
  let now ← Std.Time.Timestamp.now
  let book : Log.Logbook :=
    { workspace, now := Float.ofInt now.toNanosecondsSinceUnixEpoch.val / 1000000000,
      trace? := some fun _ => [] }
  let answer (host : Host) (readings : List Float) :=
    Program.call { book, clock := ⟨readings⟩ } host environment line
  let start := seconds (← IO.monoNanosNow)
  let known ← fetchAll (fun host => (answer host [start]).1.events) {}
  let stop := seconds (← IO.monoNanosNow)
  let (seen, after) := answer known.host [start, start, stop, stop]
  writeChanges workspace after.book.workspace
  IO.print (String.ofList seen.output.visible)
  IO.eprint (String.ofList seen.errors.visible)
  match seen.ending, seen.ending.status? with
  | .escaped fault, _ =>
    IO.eprintln (String.ofList (Text.visible (escapeText fault)))
    return 1
  | _, status => return UInt32.ofNat (status.getD 1)

end NamedSignal.Terminal

/-- Run the program. -/
def main (arguments : List String) : IO UInt32 :=
  NamedSignal.Terminal.run (arguments.map NamedSignal.Text.ofString)
