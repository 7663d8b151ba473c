import NamedSignal.Proc.Source

/-!
Signals by name. A pass goes over the processes in listing order and delivers
to each whose name is the target; the first failure ends it, and what was
delivered before stays delivered. A process that goes away before its name is
read is a failure too, unless the pass is told to take it for no match.
-/
namespace NamedSignal.Proc

/-- The logger of passes. -/
def dispatchLogger : Text := Log.loggerNamed (Text.ofString "signal_dispatcher")

/-- Deliver a signal to a process (`send_signal`). -/
def send (host : Host) (pid signal : Int) : Action Unit :=
  match host.fault pid with
  | none => Run.emit (.delivered pid signal)
  | some fault => Run.fail (fault.failure pid signal)

/-- The handle's process has the target for its name (`_matches`). -/
def Source.matches (host : Host) (source : Source) (target : Text) (ignoreVanished : Bool)
    (handle : Handle) : Action Bool := do
  match ← (source.resolve host handle).ended with
  | .ok (name, _) => return name == target
  | .error failure =>
    if ignoreVanished && failure.meansGone then
      Run.log .debug dispatchLogger "_matches"
        (Text.concat ["PID ", Text.ofInt handle.pid,
          " exited before its name could be read, skipping"])
      return false
    else Run.fail failure

/-- Deliver to a process. -/
def signalOne (host : Host) (target : Text) (signal : Int) (handle : Handle) : Action Unit := do
  send host handle.pid signal
  Run.log .info dispatchLogger "signal_by_name"
    (Text.concat ["Sent signal ", Text.ofInt signal, " to ", target, " (PID: ",
      Text.ofInt handle.pid, ")"])

/-- Go over handles in order; the result is the processes that were signaled. -/
def Source.signalEach (host : Host) (source : Source) (target : Text) (signal : Int)
    (ignoreVanished : Bool) : List Handle → Action (List Int)
  | [] => return []
  | handle :: rest => do
    if ← source.matches host target ignoreVanished handle then
      signalOne host target signal handle
      return handle.pid :: (← source.signalEach host target signal ignoreVanished rest)
    else source.signalEach host target signal ignoreVanished rest

/-- What is told of a pass: that it begins, how long it took, and whether it
found nobody. -/
def reportPass (target : Text) (signal : Int) (body : Action (List Int)) :
    Action (List Int) := do
  Run.log .debug dispatchLogger "signal_by_name"
    (Text.concat ["signal_by_name called (name=", target.quoted, ", signal=",
      Text.ofInt signal, ")"])
  let block := Text.concat ["signal_by_name(", target.quoted, ")"]
  let signaled ← Timer.timed failureKind block dispatchLogger body
  if signaled.isEmpty then
    Run.log .info dispatchLogger "signal_by_name"
      (Text.concat ["No process named ", target.quoted, " found"])
  return signaled

/-- Signal every process that has the target for its name (`signal_by_name`). -/
def Source.signalByName (host : Host) (source : Source) (target : Text) (signal : Int)
    (ignoreVanished : Bool) : Action (List Int) :=
  reportPass target signal do
    let handles ← source.enumerate host
    source.signalEach host target signal ignoreVanished handles

/-- Signal by name under a root, or under the one the environment names (`signal_procs`). -/
def signalProcesses (host : Host) (environment : Environment) (target : Text) (signal : Int)
    (root : Option Text) (ignoreVanished : Bool) : Action (List Int) := do
  let source ← Source.create environment root
  source.signalByName host target signal ignoreVanished

/-- Signal by name where the root is an empty list and so no path. The pass
fails when it comes to list the root. -/
def signalNowhere (target : Text) (signal : Int) : Action (List Int) := do
  Source.announce "[]"
  reportPass target signal do
    let _ ← Source.enumeration (Run.fail .notPath)
    return []

end NamedSignal.Proc
