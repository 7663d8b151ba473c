import NamedSignal.Proofs.FixedRoot

/-!
Which process and which record a path belongs to. A record is opened by its path under the
root of the source in use, so the path begins with the root, and no other process and no
other record has it. Where the root came from the environment, that is the path that the
environment gave for the number and the name when the source was made.
-/
namespace NamedSignal

/-- Making something of a value is not seen. -/
theorem Run.events_map {ε α β : Type} (operation : Run ε α) (make : α → β) (clock : Clock) :
    ((operation >>= fun value => pure (make value)) clock).events = (operation clock).events := by
  cases ended : (operation clock).result with
  | error failure => rw [bind_of_error ended]
  | ok value =>
    rw [bind_of_ok ended]
    exact List.append_nil _

theorem recordsPath_append (environment : Environment) (front back : List Text) :
    recordsPath environment (front ++ back) = Path.join (recordsPath environment front) back :=
  List.foldl_append ..

namespace Proc

/-- The records of a process that are opened. -/
inductive Record where
  | status
  | arguments
  deriving DecidableEq

/-- The name of a record in the place of its process. -/
def Record.name : Record → Text
  | status => "status"
  | arguments => "cmdline"

theorem Record.name_relative (record : Record) : Path.slash ∉ record.name := by
  cases record with
  | status => decide
  | arguments => decide

theorem Record.name_inj {record second : Record} (same : record.name = second.name) :
    record = second := by
  revert same
  cases record <;> cases second <;> decide

namespace Source

variable {source : Source} {host : Host} {pid other : Int} {record second : Record} {clock : Clock}

theorem load_events (path : Text) : (load host path clock).events = [.opened path] := by
  have opens : ((Run.emit (.opened path) : Action Unit) clock).result = .ok () := rfl
  rw [load, Run.bind_of_ok opens]
  cases host.content path <;> rfl

theorem root_prefix_recordPath : source.root <+: source.recordPath pid record.name := by
  rw [recordPath_eq_placeOf source pid record.name_relative]
  exact Path.prefix_beneath ..

/-- No two records have one path. -/
theorem recordPath_inj
    (same : source.recordPath pid record.name = source.recordPath other second.name) :
    pid = other ∧ record = second := by
  rw [recordPath_eq_placeOf source pid record.name_relative,
    recordPath_eq_placeOf source other second.name_relative] at same
  obtain ⟨process, name⟩ := placeOf_inj record.name_relative same
  exact ⟨process, Record.name_inj name⟩

end Source
end Proc

namespace Session

/-- The step that reads a record of a process. -/
def Step.reading (pid : Int) : Proc.Record → Step
  | .status => .readStatus pid
  | .arguments => .readArguments pid

/-- Reading a record opens it and does nothing else that is seen. -/
theorem State.step_reading (state : State) (pid : Int) (record : Proc.Record) :
    (state.step (.reading pid record)).1.events =
      [.opened (state.source.recordPath pid record.name)] := by
  cases record with
  | status => rw [Step.reading, State.step, perform_events, Proc.Source.readStatus,
      Run.events_map, Proc.Source.load_events, Proc.Record.name]
  | arguments => rw [Step.reading, State.step, perform_events, Proc.Source.readArguments,
      Run.events_map, Proc.Source.load_events, Proc.Record.name]

section Made

variable (state : State) (given : Option Text) (earlier : List Step) {between : List Step}

/-- Behind any steps, a record is opened by a path that begins with the root of the source
that was made last, whatever that root is, and that no other process and no other record
has. A source that was made without a root opens what the environment gave then for the
number and the name. And an environment gives for parts behind others what it gives for the
others with the parts put behind it. -/
theorem record_paths_identify (unmade : ∀ step ∈ between, step.makesSource = false) :
    let environment := environmentAfter state.environment earlier
    let source : Proc.Source := ⟨given.getD (recordsRoot environment)⟩
    let now := (state.steps (earlier ++ .newSource given :: between)).2
    (∀ (pid : Int) (record : Proc.Record),
      (now.step (.reading pid record)).1.events = [.opened (source.recordPath pid record.name)] ∧
        source.root <+: source.recordPath pid record.name) ∧
    (∀ (pid other : Int) (record second : Proc.Record), (pid, record) ≠ (other, second) →
      source.recordPath pid record.name ≠ source.recordPath other second.name) ∧
    (given = none → ∀ (pid : Int) (record : Proc.Record),
      source.recordPath pid record.name = recordsPath environment [Text.ofInt pid, record.name]) ∧
    ∀ (environment : Environment) (front back : List Text),
      recordsPath environment (front ++ back) = Path.join (recordsPath environment front) back := by
  intro environment source now
  have made : now.source = source := State.source_made_last unmade
  refine ⟨fun pid record => ⟨?_, Proc.Source.root_prefix_recordPath⟩, ?_, ?_, recordsPath_append⟩
  · rw [State.step_reading, made]
  · intro pid other record second differ same
    obtain ⟨rfl, rfl⟩ := Proc.Source.recordPath_inj same
    exact differ rfl
  · rintro rfl pid record
    rfl

end Made

/-- The root that the environment named with a slash at its end, and lost behind the making of
the source: the records of two processes whose numbers differ in the sign only. -/
theorem placed_records_identified :
    let now := ((unopened Proc.Pass.mixedHost (placedAt "/p/") ⟨[]⟩).steps
      [.newSource none, .setEnvironment fun _ => none]).2
    (now.step (.readStatus 12)).1.events = [.opened "/p/12/status"] ∧
    (now.step (.readArguments (-12))).1.events = [.opened "/p/-12/cmdline"] ∧
    now.source.recordPath 12 "cmdline" ≠ now.source.recordPath (-12) "cmdline" ∧
    now.source.recordPath 12 "status" = recordsPath (placedAt "/p/") ["12", "status"] := by
  intro now
  have unmade : ∀ step ∈ [Step.setEnvironment fun _ => none], step.makesSource = false := by
    simp [Step.makesSource]
  obtain ⟨opened, differ, placed, -⟩ := record_paths_identify
    (unopened Proc.Pass.mixedHost (placedAt "/p/") ⟨[]⟩) none [] unmade
  refine ⟨(opened 12 .status).1.trans ?_, (opened (-12) .arguments).1.trans ?_, ?_, ?_⟩
  · decide +kernel
  · decide +kernel
  · exact differ 12 (-12) .arguments .arguments (by decide)
  · exact (placed rfl 12 .status).trans (by decide +kernel)

end Session
end NamedSignal
