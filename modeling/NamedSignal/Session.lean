import NamedSignal.Proc.Dispatch

/-!
Sessions: operations on one host in any order, with changes to the host and
the environment between them. Handles are kept in one growing list; only a
resolve that succeeds changes a handle, and only the one it names.
-/
namespace NamedSignal

/-- A change to the host from outside. -/
inductive Change where
  /-- Put content behind a path, or nothing. -/
  | content (path : Text) (content : Content)
  | listing (path : Text) (entries : Except Errno (List Text))
  | fault (pid : Int) (fault : Option DeliveryFault)

namespace Change

/-- The host after the change. -/
def apply (host : Host) : Change → Host
  | content path new =>
    { host with content := fun asked => if asked == path then new else host.content asked }
  | listing path new =>
    { host with listing := fun asked => if asked == path then new else host.listing asked }
  | fault pid new =>
    { host with fault := fun asked => if asked == pid then new else host.fault asked }

end Change

namespace Session

open Proc

/-- What a session carries from step to step. -/
structure State where
  host : Host
  environment : Environment
  clock : Clock
  source : Source
  handles : List Handle

/-- One step of a session. -/
inductive Step where
  | newSource (root : Option Text)
  | setEnvironment (environment : Environment)
  | change (change : Change)
  | enumerate
  | handle (pid : Int) (name : Option Text)
  | resolve (index : Nat)
  | inspect (index : Nat)
  | compare (first second : Nat)
  | readStatus (pid : Int)
  | readArguments (pid : Int)
  | send (pid signal : Int)
  | signal (target : Text) (signal : Int) (ignoreVanished : Bool)

/-- What a step answers. -/
inductive Reply where
  | done
  | text (text : Text)
  | handles (handles : List Handle)
  | handle (handle : Handle)
  | same (same : Bool)
  | status (status : Status)
  | arguments (arguments : List Text)
  | pids (pids : List Int)
  /-- The list has no handle there. -/
  | absent

/-- A step seen from outside. -/
structure Answer where
  result : Except Failure Reply
  events : List Event

namespace State

/-- Run an operation and keep the clock. A value changes the state further. -/
def perform {α : Type} (state : State) (task : Action α) (use : State → α → Reply × State) :
    Answer × State :=
  let outcome := task state.clock
  let state := { state with clock := outcome.clock }
  match outcome.result with
  | .error failure => (⟨.error failure, outcome.events⟩, state)
  | .ok value =>
    let used := use state value
    (⟨.ok used.1, outcome.events⟩, used.2)

/-- Answer without an operation. -/
def reply (state : State) (reply : Reply) : Answer × State := (⟨.ok reply, []⟩, state)

/-- Take one step. -/
def step (state : State) : Step → Answer × State
  | .newSource root =>
    state.perform (Source.create state.environment root) fun state source =>
      (.text source.root, { state with source })
  | .setEnvironment environment => ({ state with environment }).reply .done
  | .change change => ({ state with host := change.apply state.host }).reply .done
  | .enumerate =>
    state.perform (state.source.enumerate state.host) fun state found =>
      (.handles found, { state with handles := state.handles ++ found })
  | .handle pid name =>
    let handle : Handle := { pid, name }
    ({ state with handles := state.handles ++ [handle] }).reply (.text handle.describe)
  | .resolve index =>
    match state.handles[index]? with
    | none => state.reply .absent
    | some handle =>
      state.perform (state.source.resolve state.host handle) fun state resolved =>
        (.text resolved.1, { state with handles := state.handles.set index resolved.2 })
  | .inspect index =>
    match state.handles[index]? with
    | none => state.reply .absent
    | some handle => state.reply (.handle handle)
  | .compare first second =>
    match state.handles[first]?, state.handles[second]? with
    | some a, some b => state.reply (.same (a == b))
    | _, _ => state.reply .absent
  | .readStatus pid =>
    state.perform (state.source.readStatus state.host pid) fun state status =>
      (.status status, state)
  | .readArguments pid =>
    state.perform (state.source.readArguments state.host pid) fun state arguments =>
      (.arguments arguments, state)
  | .send pid signal =>
    state.perform (Proc.send state.host pid signal) fun state _ => (.done, state)
  | .signal target signal ignoreVanished =>
    state.perform (state.source.signalByName state.host target signal ignoreVanished)
      fun state pids => (.pids pids, state)

/-- Take steps in order. -/
def steps (state : State) : List Step → List Answer × State
  | [] => ([], state)
  | step :: rest =>
    let first := state.step step
    let later := first.2.steps rest
    (first.1 :: later.1, later.2)

end State

/-- Begin a session with a source for a given root. -/
def start (host : Host) (environment : Environment) (clock : Clock) (root : Option Text) :
    Answer × State :=
  let blank : State := { host, environment, clock, source := ⟨[]⟩, handles := [] }
  blank.perform (Source.create environment root) fun state source => (.done, { state with source })

end Session
end NamedSignal
