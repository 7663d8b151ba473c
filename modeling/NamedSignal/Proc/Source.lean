import NamedSignal.Host
import NamedSignal.Proc.Records
import NamedSignal.Timer

/-!
Looking processes up under a root. Enumerating gives a handle for each process
entry in listing order; resolving a handle finds the name of its process once
and remembers it in the handle. The root is fixed when the source is made.
-/
namespace NamedSignal

/-- An operation on the host. -/
abbrev Action := Run Failure

/-- The kind of a failure, as text. -/
def failureKind (failure : Failure) : Text := Text.ofString failure.kind

namespace Proc

/-- One process seen in a listing, and its name once that is known (`ProcessHandle`). -/
structure Handle where
  pid : Int
  name : Option Text := none

/-- Handles are the same if their processes are. -/
instance : BEq Handle := ⟨fun a b => a.pid == b.pid⟩

namespace Handle

/-- The name is known. -/
def isResolved (handle : Handle) : Bool := handle.name.isSome

/-- The handle in words. -/
def describe (handle : Handle) : Text :=
  Text.concat ["ProcessHandle(pid=", Text.ofInt handle.pid, ")"]

end Handle

/-- The place under which process records are looked up (`ProcessSource`). -/
structure Source where
  root : Text
  deriving DecidableEq

namespace Source

/-- The logger of sources. -/
def logger : Text := Log.loggerNamed (Text.ofString "process_source")

/-- Tell under which root processes will be looked up. -/
def announce (root : Text) : Action Unit :=
  Run.log .debug logger "__init__" (Text.concat ["ProcessSource initialized (root=", root, ")"])

/-- Make a source for a given root, or for the one the environment names
(`ProcessSource.__init__`). -/
def create (environment : Environment) (root : Option Text) : Action Source := do
  let source : Source := ⟨root.getD (recordsRoot environment)⟩
  announce source.root
  return source

/-- The root with parts behind it (`ProcessSource.path`). -/
def path (source : Source) (parts : List Text) : Text := Path.join source.root parts

/-- The path of a record of a process. -/
def recordPath (source : Source) (pid : Int) (record : Text) : Text :=
  source.path [Text.ofInt pid, record]

/-- The entries of a directory (`os.listdir`). -/
def list (host : Host) (path : Text) : Action (List Text) := do
  Run.emit (.listed path)
  match host.listing path with
  | .ok entries => return entries
  | .error errno => Run.fail (.host errno (some path))

/-- The bytes behind a path; only a refusal to open names the path (`open`). -/
def load (host : Host) (path : Text) : Action (List UInt8) := do
  Run.emit (.opened path)
  match host.content path with
  | .bytes content => return content
  | .unopenable errno => Run.fail (.host errno (some path))
  | .unreadable errno => Run.fail (.host errno none)

/-- The process numbers among directory entries, in order. -/
def pids : List Text → Except Failure (List Int)
  | [] => .ok []
  | entry :: rest => do
    let pid ← pid? entry
    let others ← pids rest
    return pid.toList ++ others

/-- The block in which processes are enumerated. -/
def enumeration (body : Action (List Handle)) : Action (List Handle) :=
  Timer.timed failureKind "ProcessSource.enumerate" Timer.defaultLogger body

/-- A fresh handle for every process under the root (`ProcessSource.enumerate`). -/
def enumerate (host : Host) (source : Source) : Action (List Handle) :=
  enumeration do
    let entries ← list host source.root
    let found ← Run.ofExcept (pids entries)
    Run.log .debug logger "enumerate"
      (Text.concat ["Enumerated ", Text.ofNat found.length, " processes from ",
        Text.ofNat entries.length, " entries in ", source.root])
    return found.map fun pid => { pid }

/-- The status record of a process (`read_status`). -/
def readStatus (host : Host) (source : Source) (pid : Int) : Action Status := do
  let content ← load host (source.recordPath pid "status")
  return Status.parse content

/-- The arguments of a process (`read_cmdline`). -/
def readArguments (host : Host) (source : Source) (pid : Int) : Action (List Text) := do
  let content ← load host (source.recordPath pid "cmdline")
  return Arguments.parse content

/-- The name of a process by its records: the recorded one, or the one its
arguments recover where that may have been cut. -/
def findName (host : Host) (source : Source) (pid : Int) : Action Text := do
  let status ← source.readStatus host pid
  let name := status.name
  if mayBeCut name then
    let recovered := recoverName name (← source.readArguments host pid)
    if recovered != name then
      Run.log .debug logger "resolve_name"
        (Text.concat ["PID ", Text.ofInt pid, ": recovered name ", recovered.quoted,
          " from truncated ", name.quoted])
    return recovered
  else return name

/-- The name of a handle's process, and the handle that remembers it (`resolve_name`). -/
def resolve (host : Host) (source : Source) (handle : Handle) : Action (Text × Handle) :=
  match handle.name with
  | some name => return (name, handle)
  | none => do
    let name ← source.findName host handle.pid
    return (name, { handle with name := some name })

end Source
end Proc
end NamedSignal
