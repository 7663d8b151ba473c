import NamedSignal.Proc.Dispatch
import NamedSignal.Proofs.Traces

/-!
What is seen while processes are looked up. Each event is a look at the host or one of
a few records: how many processes a root has, that a name has been recovered, that a
process is gone, and how long the listing took. So what holds of these is left behind
by every lookup.
-/
namespace NamedSignal.Proc.Source

/-- What may be seen while processes under a root are looked up. -/
inductive Shows (root : Text) : Event → Prop where
  | listed (path : Text) : Shows root (.listed path)
  | opened (path : Text) : Shows root (.opened path)
  | counted (found entries : Nat) : Shows root (.logged ⟨.debug, logger, "enumerate",
      Text.concat ["Enumerated ", Text.ofNat found, " processes from ", Text.ofNat entries,
        " entries in ", root]⟩)
  | recovered (pid : Int) (name recovered : Text) : Shows root (.logged ⟨.debug, logger,
      "resolve_name", Text.concat ["PID ", Text.ofInt pid, ": recovered name ", recovered.quoted,
        " from truncated ", name.quoted]⟩)
  | gone (pid : Int) : Shows root (.logged ⟨.debug, dispatchLogger, "_matches",
      Text.concat ["PID ", Text.ofInt pid, " exited before its name could be read, skipping"]⟩)
  | timed (milliseconds : Float) (result : Except Failure (List Handle)) :
      Shows root (.logged (Timer.report "ProcessSource.enumerate" Timer.defaultLogger milliseconds
        (Timer.failureKind failureKind result)))

variable {p : List Event → Prop} (additive : Event.Additive p) {root : Text}
  (shows : ∀ event, Shows root event → p [event])

include additive shows

theorem list_leaves (host : Host) (path : Text) : (list host path).Leaves p := by
  refine Run.Leaves.bind additive (Run.leaves_emit (shows _ (.listed path))) fun _ => ?_
  split
  · exact Run.leaves_pure additive _
  · exact Run.leaves_fail additive _

theorem load_leaves (host : Host) (path : Text) : (load host path).Leaves p := by
  refine Run.Leaves.bind additive (Run.leaves_emit (shows _ (.opened path))) fun _ => ?_
  split
  · exact Run.leaves_pure additive _
  · exact Run.leaves_fail additive _
  · exact Run.leaves_fail additive _

theorem enumeration_leaves {body : Action (List Handle)} (leaves : body.Leaves p) :
    (enumeration body).Leaves p :=
  Timer.timed_leaves additive leaves fun milliseconds result => shows _ (.timed milliseconds result)

theorem findName_leaves (host : Host) (source : Source) (pid : Int) :
    (source.findName host pid).Leaves p := by
  have status := load_leaves additive shows host (source.recordPath pid "status")
  have arguments := load_leaves additive shows host (source.recordPath pid "cmdline")
  refine Run.Leaves.bind additive ?_ fun status => ?_
  · exact Run.Leaves.bind additive status fun _ => Run.leaves_pure additive _
  · simp only
    split
    · refine Run.Leaves.bind additive ?_ fun given => ?_
      · exact Run.Leaves.bind additive arguments fun _ => Run.leaves_pure additive _
      · split
        · refine Run.Leaves.bind additive (Run.leaves_emit (shows _ (.recovered ..))) fun _ => ?_
          exact Run.leaves_pure additive _
        · exact Run.leaves_pure additive _
    · exact Run.leaves_pure additive _

theorem resolve_leaves (host : Host) (source : Source) (handle : Handle) :
    (source.resolve host handle).Leaves p := by
  unfold resolve
  split
  · exact Run.leaves_pure additive _
  · refine Run.Leaves.bind additive (findName_leaves additive shows host source _) fun name => ?_
    exact Run.leaves_pure additive _

/-- Asking whether a process is a match. -/
theorem matches_leaves (host : Host) (source : Source) (target : Text) (ignoreVanished : Bool)
    (handle : Handle) : (source.matches host target ignoreVanished handle).Leaves p := by
  have resolved := (resolve_leaves additive shows host source handle).ended
  refine Run.Leaves.bind additive resolved fun ending => ?_
  split
  · exact Run.leaves_pure additive _
  · split
    · refine Run.Leaves.bind additive (Run.leaves_emit (shows _ (.gone _))) fun _ => ?_
      exact Run.leaves_pure additive _
    · exact Run.leaves_fail additive _

/-- Enumerating, which tells of the root itself. -/
theorem enumerate_leaves (host : Host) : (enumerate host ⟨root⟩).Leaves p := by
  refine enumeration_leaves additive shows ?_
  refine Run.Leaves.bind additive (list_leaves additive shows host root) fun entries => ?_
  refine Run.Leaves.bind additive (Run.leaves_ofExcept additive _) fun found => ?_
  refine Run.Leaves.bind additive (Run.leaves_emit (shows _ (.counted ..))) fun _ => ?_
  exact Run.leaves_pure additive _

end NamedSignal.Proc.Source
