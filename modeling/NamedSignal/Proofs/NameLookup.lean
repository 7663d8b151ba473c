import NamedSignal.Proc.Source
import NamedSignal.Proofs.Deeds

/-!
What a source finds out about processes, read off the host directly. `roll` is
the list of processes, `nameOf` the name of one of them and `consulted` the
records that are opened for it; the operations of a source look at exactly these
and answer with exactly these, failures included.
-/
namespace NamedSignal

/-- The failure has the class of a file or of a process that is not there. -/
def Failure.isVanished (failure : Failure) : Bool :=
  failure.kind == "FileNotFoundError" || failure.kind == "ProcessLookupError"

private theorem kind_vanished_iff (errno : Errno) :
    errno.kind = "FileNotFoundError" ∨ errno.kind = "ProcessLookupError" ↔
      errno = .notFound ∨ errno = .noSuchProcess := by
  obtain ⟨code⟩ := errno
  simp only [Errno.kind, Errno.notFound, Errno.noSuchProcess, Errno.mk.injEq]
  split <;> simp_all

/-- Two error numbers are those of the two classes, and no failure but a refusal
of the host carries them. -/
theorem Failure.meansGone_eq_isVanished (failure : Failure) :
    failure.meansGone = failure.isVanished := by
  cases failure with
  | host errno path =>
    have same := kind_vanished_iff errno
    apply Bool.eq_iff_iff.mpr
    simpa [meansGone, isVanished, kind, Errno.meansGone] using same.symm
  | undelivered => rfl
  | numeralTooLong => rfl
  | unacceptable => rfl
  | notPath => rfl

/-- The bytes behind a path, or why there are none. -/
def Host.bytes (host : Host) (path : Text) : Except Failure (List UInt8) :=
  match host.content path with
  | .bytes content => .ok content
  | .unopenable errno => .error (.host errno (some path))
  | .unreadable errno => .error (.host errno none)

namespace Proc.Source

/-- The processes under the root in listing order, or why they cannot be told. -/
def roll (source : Source) (host : Host) : Except Failure (List Int) :=
  match host.listing source.root with
  | .ok entries => pids entries
  | .error errno => .error (.host errno (some source.root))

/-- The name that the status record of a process holds. -/
def recordedName (source : Source) (host : Host) (pid : Int) : Except Failure Text :=
  match host.bytes (source.recordPath pid "status") with
  | .ok content => .ok (Status.parse content).name
  | .error failure => .error failure

/-- The name of a process, or why it cannot be told. -/
def nameOf (source : Source) (host : Host) (pid : Int) : Except Failure Text :=
  match source.recordedName host pid with
  | .error failure => .error failure
  | .ok name =>
    if mayBeCut name then
      match host.bytes (source.recordPath pid "cmdline") with
      | .ok content => .ok (recoverName name (Arguments.parse content))
      | .error failure => .error failure
    else .ok name

/-- The records that are opened for the name of a process: its status record,
and its arguments once that has given a name that may be cut. -/
def consulted (source : Source) (host : Host) (pid : Int) : List Event :=
  .opened (source.recordPath pid "status") ::
    match source.recordedName host pid with
    | .ok name => if mayBeCut name then [.opened (source.recordPath pid "cmdline")] else []
    | .error _ => []

variable (source : Source) (host : Host)

/-- Opening a path is seen, whether or not there is anything behind it. -/
theorem load_does (path : Text) : (load host path).Does [.opened path] (host.bytes path) := by
  unfold load Host.bytes
  refine (Run.does_emit (.opened path) rfl).then_quiet ?_
  cases host.content path with
  | bytes content => exact Run.does_pure content
  | unopenable errno => exact Run.does_fail _
  | unreadable errno => exact Run.does_fail _

/-- Listing a directory is seen, whether or not it has entries to give. -/
theorem list_does (path : Text) : (list host path).Does [.listed path]
    (match host.listing path with
      | .ok entries => .ok entries
      | .error errno => .error (.host errno (some path))) := by
  unfold list
  refine (Run.does_emit (.listed path) rfl).then_quiet ?_
  cases host.listing path with
  | ok entries => exact Run.does_pure entries
  | error errno => exact Run.does_fail _

/-- Enumerating lists the root once and gives a fresh handle for every process
on the roll. -/
theorem enumerate_does : (source.enumerate host).Does [.listed source.root]
    ((source.roll host).map fun found => found.map fun pid => { pid }) := by
  refine Timer.timed_does _ _ ?_
  have listed := list_does host source.root
  unfold roll
  cases listing : host.listing source.root with
  | error errno =>
    rw [listing] at listed
    exact listed.bind_error
  | ok entries =>
    rw [listing] at listed
    refine listed.then_quiet ?_
    simp only
    cases pids entries with
    | error failure => exact (Run.does_ofExcept (.error failure)).bind_error
    | ok found =>
      refine (Run.does_ofExcept (.ok found)).after_quiet ?_
      exact (Run.does_pure _).after_log

/-- Finding a name opens the records that are consulted and gives the name they
hold; the report of a recovered name is no deed. -/
theorem findName_does (pid : Int) :
    (source.findName host pid).Does (source.consulted host pid) (source.nameOf host pid) := by
  have status := (load_does host (source.recordPath pid "status")).bind_pure Status.parse
  have arguments := (load_does host (source.recordPath pid "cmdline")).bind_pure Arguments.parse
  unfold findName consulted nameOf recordedName
  cases recorded : host.bytes (source.recordPath pid "status") with
  | error failure =>
    rw [recorded] at status
    exact status.bind_error
  | ok content =>
    rw [recorded] at status
    by_cases cut : mayBeCut (Status.parse content).name = true
    · simp only [cut, ↓reduceIte]
      refine status.bind (?_ : Run.Does _ [.opened (source.recordPath pid "cmdline")] _)
      simp only [cut, ↓reduceIte]
      cases given : host.bytes (source.recordPath pid "cmdline") with
      | error failure =>
        rw [given] at arguments
        exact arguments.bind_error
      | ok bytes =>
        rw [given] at arguments
        refine arguments.then_quiet ?_
        split
        · exact (Run.does_pure _).after_log
        · exact Run.does_pure _
    · simp only [cut]
      refine status.then_quiet ?_
      simp only [cut]
      exact Run.does_pure _

/-- A handle that does not know its name looks it up, and remembers it if it is
found. -/
theorem resolve_unknown_does {handle : Handle} (unknown : handle.name = none) :
    (source.resolve host handle).Does (source.consulted host handle.pid)
      ((source.nameOf host handle.pid).map fun name =>
        (name, { handle with name := some name })) := by
  unfold resolve
  rw [unknown]
  exact (findName_does source host handle.pid).bind_pure _

end Proc.Source
end NamedSignal
