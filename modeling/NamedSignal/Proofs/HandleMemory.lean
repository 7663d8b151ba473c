import NamedSignal.Proofs.NameLookup
import NamedSignal.Session

/-!
What becomes of handles in a session. A handle keeps its place and its process
whatever is done; it learns a name from a resolve of its own that succeeds, and
from then on gives that name without looking at anything. All other steps leave
the handles that are there alone.
-/
namespace NamedSignal.Session

/-- What a step looked at, in order. -/
def Answer.reads (answer : Answer) : List Text := answer.events.filterMap Event.read?

namespace State

variable {α : Type}

theorem perform_ok {state : State} {task : Action α} {use : State → α → Reply × State} {value : α}
    (ended : (task state.clock).result = .ok value) :
    state.perform task use =
      (⟨.ok (use { state with clock := (task state.clock).clock } value).1,
        (task state.clock).events⟩,
        (use { state with clock := (task state.clock).clock } value).2) := by
  simp only [perform, ended]

theorem perform_error {state : State} {task : Action α} {use : State → α → Reply × State}
    {failure : Failure} (ended : (task state.clock).result = .error failure) :
    state.perform task use =
      (⟨.error failure, (task state.clock).events⟩,
        { state with clock := (task state.clock).clock }) := by
  simp only [perform, ended]

/-- A part of the state, other than the clock, that no value changes is left alone
by an operation. -/
theorem perform_keeps {β : Type} {state : State} {task : Action α} {use : State → α → Reply × State}
    (part : State → β) (clocked : ∀ state clock, part { state with clock } = part state)
    (frame : ∀ state value, part (use state value).2 = part state) :
    part (state.perform task use).2 = part state := by
  cases ended : (task state.clock).result with
  | error failure => rw [perform_error ended, clocked]
  | ok value => rw [perform_ok ended, frame, clocked]

private theorem perform_handles {state : State} {task : Action α} {use : State → α → Reply × State}
    (frame : ∀ state value, (use state value).2.handles = state.handles) :
    (state.perform task use).2.handles = state.handles :=
  perform_keeps State.handles (fun _ _ => rfl) frame

private theorem set_present {handles : List Proc.Handle} {index : Nat} {handle : Proc.Handle}
    (present : handles[index]? = some handle) : handles.set index handle = handles := by
  obtain ⟨bound, rfl⟩ := List.getElem?_eq_some_iff.mp present
  exact List.set_getElem_self bound

/-- A resolve of a handle that knows its name answers it, looks at nothing and
changes nothing. -/
theorem step_resolve_known {state : State} {index : Nat} {handle : Proc.Handle} {name : Text}
    (present : state.handles[index]? = some handle) (known : handle.name = some name) :
    state.step (.resolve index) = (⟨.ok (.text name), []⟩, state) := by
  have quick : state.source.resolve state.host handle state.clock =
      ⟨[], state.clock, .ok (name, handle)⟩ := by
    simp only [Proc.Source.resolve, known]
    rfl
  have ended : (state.source.resolve state.host handle state.clock).result =
      .ok (name, handle) := by rw [quick]
  simp only [step, present]
  rw [perform_ok ended, quick]
  simp only [set_present present]

/-- A resolve of a handle that does not know its name looks at the records of its
process, and answers what they give. -/
theorem step_resolve_unknown {state : State} {index : Nat} {handle : Proc.Handle}
    (present : state.handles[index]? = some handle) (unknown : handle.name = none) :
    (state.step (.resolve index)).1.reads =
        (state.source.consulted state.host handle.pid).filterMap Event.read? ∧
      (state.step (.resolve index)).1.result =
        (state.source.nameOf state.host handle.pid).map .text ∧
      (state.step (.resolve index)).2.handles =
        match state.source.nameOf state.host handle.pid with
        | .ok name => state.handles.set index { handle with name := some name }
        | .error _ => state.handles := by
  have does := Proc.Source.resolve_unknown_does state.source state.host unknown
  have ended := does.result_eq state.clock
  have looked : (state.source.resolve state.host handle state.clock).reads =
      (state.source.consulted state.host handle.pid).filterMap Event.read? := by
    rw [Outcome.reads_eq_deeds, does.deeds_eq]
  simp only [step, present]
  cases named : state.source.nameOf state.host handle.pid with
  | error failure =>
    rw [named] at ended
    rw [perform_error ended]
    exact ⟨looked, rfl, rfl⟩
  | ok name =>
    rw [named] at ended
    rw [perform_ok ended]
    exact ⟨looked, rfl, rfl⟩

/-- Enumerating puts a fresh handle for every process behind those that are there,
and answers the fresh ones. -/
theorem step_enumerate (state : State) :
    (state.step .enumerate).1.result = (state.source.roll state.host).map
        (fun pids => .handles (pids.map fun pid => { pid })) ∧
      (state.step .enumerate).2.handles =
        match state.source.roll state.host with
        | .ok pids => state.handles ++ pids.map fun pid => { pid }
        | .error _ => state.handles := by
  have ended := (Proc.Source.enumerate_does state.source state.host).result_eq state.clock
  simp only [step]
  cases rolled : state.source.roll state.host with
  | error failure =>
    rw [rolled] at ended
    rw [perform_error ended]
    exact ⟨rfl, rfl⟩
  | ok pids =>
    rw [rolled] at ended
    rw [perform_ok ended]
    exact ⟨rfl, rfl⟩

theorem step_signal (state : State) (target : Text) (signal : Int) (ignoreVanished : Bool) :
    (state.step (.signal target signal ignoreVanished)).2.handles = state.handles :=
  perform_handles fun _ _ => rfl

variable {index : Nat} {handle : Proc.Handle}

private theorem present_append {handles : List Proc.Handle} (more : List Proc.Handle)
    (present : handles[index]? = some handle) : (handles ++ more)[index]? = some handle := by
  obtain ⟨bound, -⟩ := List.getElem?_eq_some_iff.mp present
  rwa [List.getElem?_append_left bound]

private theorem resolve_place {state : State} (present : state.handles[index]? = some handle)
    (asked : Nat) :
    (state.step (.resolve asked)).2.handles[index]? = some handle ∨
      ∃ name, asked = index ∧ handle.name = none ∧
        (state.step (.resolve asked)).1.result = .ok (.text name) ∧
        (state.step (.resolve asked)).2.handles[index]? =
          some { handle with name := some name } := by
  cases there : state.handles[asked]? with
  | none =>
    refine .inl ?_
    simp only [step, there]
    exact present
  | some found =>
    cases known : found.name with
    | some name =>
      rw [step_resolve_known there known]
      exact .inl present
    | none =>
      obtain ⟨-, answered, after⟩ := step_resolve_unknown there known
      rw [answered, after]
      cases named : state.source.nameOf state.host found.pid with
      | error failure => exact .inl present
      | ok name =>
        by_cases own : asked = index
        · subst own
          cases there.symm.trans present
          obtain ⟨bound, -⟩ := List.getElem?_eq_some_iff.mp present
          refine .inr ⟨name, rfl, known, rfl, ?_⟩
          exact List.getElem?_set_self bound
        · refine .inl ?_
          rw [List.getElem?_set_ne own]
          exact present

/-- A step leaves a handle alone, unless it is a resolve of that handle which
finds the name that the handle did not know. -/
theorem step_place {state : State} (present : state.handles[index]? = some handle)
    (step : Step) :
    (state.step step).2.handles[index]? = some handle ∨
      ∃ name, step = .resolve index ∧ handle.name = none ∧
        (state.step step).1.result = .ok (.text name) ∧
        (state.step step).2.handles[index]? = some { handle with name := some name } := by
  have framed : (state.step step).2.handles = state.handles →
      (state.step step).2.handles[index]? = some handle := by
    intro frame
    rw [frame]
    exact present
  cases step with
  | newSource root => exact .inl (framed (perform_handles fun _ _ => rfl))
  | setEnvironment environment => exact .inl (framed rfl)
  | change change => exact .inl (framed rfl)
  | enumerate =>
    refine .inl ?_
    rw [(step_enumerate state).2]
    cases state.source.roll state.host with
    | error failure => exact present
    | ok pids => exact present_append _ present
  | handle pid name => exact .inl (present_append _ present)
  | resolve asked =>
    obtain stays | ⟨name, rfl, unknown, answered, after⟩ := resolve_place present asked
    · exact .inl stays
    · exact .inr ⟨name, rfl, unknown, answered, after⟩
  | inspect asked =>
    refine .inl (framed ?_)
    simp only [State.step]
    split <;> rfl
  | compare first second =>
    refine .inl (framed ?_)
    simp only [State.step]
    split <;> rfl
  | readStatus pid => exact .inl (framed (perform_handles fun _ _ => rfl))
  | readArguments pid => exact .inl (framed (perform_handles fun _ _ => rfl))
  | send pid signal => exact .inl (framed (perform_handles fun _ _ => rfl))
  | signal target signal ignoreVanished => exact .inl (framed (step_signal state _ _ _))

/-- A handle that knows its name stays as it is through all steps. -/
theorem steps_known {state : State} {name : Text} (present : state.handles[index]? = some handle)
    (known : handle.name = some name) (run : List Step) :
    (state.steps run).2.handles[index]? = some handle := by
  induction run generalizing state with
  | nil => exact present
  | cons step rest ih =>
    obtain stays | ⟨_, -, unknown, -⟩ := step_place present step
    · exact ih stays
    · rw [known] at unknown
      cases unknown

/-- Steps leave a handle alone, unless one of them is a resolve that finds its name. -/
theorem steps_place {state : State} (present : state.handles[index]? = some handle)
    (run : List Step) :
    (state.steps run).2.handles[index]? = some handle ∨
      ∃ name before rest, run = before ++ .resolve index :: rest ∧ handle.name = none ∧
        (state.steps before).2.handles[index]? = some handle ∧
        ((state.steps before).2.step (.resolve index)).1.result = .ok (.text name) ∧
        (state.steps run).2.handles[index]? = some { handle with name := some name } := by
  induction run generalizing state with
  | nil => exact .inl present
  | cons step rest ih =>
    obtain stays | ⟨name, rfl, unknown, answered, after⟩ := step_place present step
    · obtain still | ⟨name, before, others, split, unknown, unchanged, answered, after⟩ := ih stays
      · exact .inl still
      · refine .inr ⟨name, step :: before, others, ?_, unknown, unchanged, answered, after⟩
        rw [split, List.cons_append]
    · -- From here on the name is known and no later step can change it.
      refine .inr ⟨name, [], rest, rfl, unknown, present, answered, ?_⟩
      exact steps_known after rfl rest

/-- What the handles of a state keep to after steps that lead to a later state. -/
structure Remembered (state : State) (run : List Step) (later : State) : Prop where
  /-- A handle keeps its place and its process. It only changes by learning the
  name that one of the steps, a resolve of this very handle, answered. -/
  kept : ∀ index handle, state.handles[index]? = some handle →
    ∃ now, later.handles[index]? = some now ∧ now.pid = handle.pid ∧
      (now ≠ handle → handle.name = none ∧ ∃ name before rest,
        run = before ++ .resolve index :: rest ∧
        (state.steps before).2.handles[index]? = some handle ∧
        ((state.steps before).2.step (.resolve index)).1.result = .ok (.text name) ∧
        now.name = some name)
  /-- A name that is known stays, and is answered without a look at anything. -/
  known : ∀ index handle name, state.handles[index]? = some handle → handle.name = some name →
    later.handles[index]? = some handle ∧
      later.step (.resolve index) = (⟨.ok (.text name), []⟩, later)
  /-- A name that is not known is looked up, whatever has been tried before. -/
  unknown : ∀ index handle, later.handles[index]? = some handle → handle.name = none →
    (later.step (.resolve index)).1.reads =
        (later.source.consulted later.host handle.pid).filterMap Event.read? ∧
      (later.step (.resolve index)).1.result =
        (later.source.nameOf later.host handle.pid).map .text
  /-- A handle learns the name that its resolve answers, and no other handle changes. -/
  learned : ∀ index handle name, later.handles[index]? = some handle →
    (later.step (.resolve index)).1.result = .ok (.text name) →
    (later.step (.resolve index)).2.handles =
      later.handles.set index { handle with name := some name }
  /-- A resolve that fails leaves all handles as they are, its own without a name. -/
  failed : ∀ index failure, (later.step (.resolve index)).1.result = .error failure →
    (later.step (.resolve index)).2.handles = later.handles ∧
      ∃ handle, later.handles[index]? = some handle ∧ handle.name = none
  /-- Enumerating only adds handles, and these do not know their names. -/
  enumerated : ∃ fresh, (later.step .enumerate).2.handles = later.handles ++ fresh ∧
    (∀ handle ∈ fresh, handle.name = none) ∧
    ∀ reply, (later.step .enumerate).1.result = .ok reply → reply = .handles fresh
  /-- A pass leaves all handles as they are. -/
  signaled : ∀ target signal ignoreVanished,
    (later.step (.signal target signal ignoreVanished)).2.handles = later.handles
  /-- Handles are the same exactly if their processes are. -/
  compared : ∀ first second a b, state.handles[first]? = some a → state.handles[second]? = some b →
    (later.step (.compare first second)).1.result = .ok (.same (a.pid == b.pid))

private theorem kept_after {state : State} (present : state.handles[index]? = some handle)
    (run : List Step) :
    ∃ now, (state.steps run).2.handles[index]? = some now ∧ now.pid = handle.pid ∧
      (now ≠ handle → handle.name = none ∧ ∃ name before rest,
        run = before ++ .resolve index :: rest ∧
        (state.steps before).2.handles[index]? = some handle ∧
        ((state.steps before).2.step (.resolve index)).1.result = .ok (.text name) ∧
        now.name = some name) := by
  obtain stays | ⟨name, before, rest, split, unknown, unchanged, answered, after⟩ :=
    steps_place present run
  · exact ⟨handle, stays, rfl, fun changed => absurd rfl changed⟩
  · exact ⟨_, after, rfl, fun _ =>
      ⟨unknown, name, before, rest, split, unchanged, answered, rfl⟩⟩

private theorem resolve_learns {state : State} {name : Text}
    (present : state.handles[index]? = some handle)
    (answered : (state.step (.resolve index)).1.result = .ok (.text name)) :
    (state.step (.resolve index)).2.handles =
      state.handles.set index { handle with name := some name } := by
  cases known : handle.name with
  | some own =>
    -- The handle knew the name already, so it is put where it is.
    rw [step_resolve_known present known] at answered ⊢
    cases answered
    have same : { handle with name := some name } = handle := by rw [← known]
    rw [same]
    exact (set_present present).symm
  | none =>
    obtain ⟨-, looked, after⟩ := step_resolve_unknown present known
    rw [looked] at answered
    rw [after]
    cases named : state.source.nameOf state.host handle.pid with
    | error failure =>
      rw [named] at answered
      cases answered
    | ok found =>
      rw [named] at answered
      cases answered
      rfl

private theorem failed_resolve {state : State} {failure : Failure}
    (failed : (state.step (.resolve index)).1.result = .error failure) :
    (state.step (.resolve index)).2.handles = state.handles ∧
      ∃ handle, state.handles[index]? = some handle ∧ handle.name = none := by
  cases there : state.handles[index]? with
  | none =>
    simp only [step, there] at failed
    cases failed
  | some handle =>
    cases known : handle.name with
    | some name =>
      rw [step_resolve_known there known] at failed
      cases failed
    | none =>
      obtain ⟨-, answered, after⟩ := step_resolve_unknown there known
      refine ⟨?_, handle, rfl, known⟩
      rw [after]
      cases named : state.source.nameOf state.host handle.pid with
      | error reason => rfl
      | ok name =>
        rw [answered, named] at failed
        cases failed

private theorem enumerate_adds (state : State) :
    ∃ fresh, (state.step .enumerate).2.handles = state.handles ++ fresh ∧
      (∀ handle ∈ fresh, handle.name = none) ∧
      ∀ reply, (state.step .enumerate).1.result = .ok reply → reply = .handles fresh := by
  obtain ⟨answered, after⟩ := step_enumerate state
  rw [answered, after]
  cases state.source.roll state.host with
  | error failure =>
    refine ⟨[], (List.append_nil _).symm, by simp, ?_⟩
    intro reply given
    cases given
  | ok pids =>
    refine ⟨_, rfl, ?_, ?_⟩
    · intro handle member
      obtain ⟨pid, -, rfl⟩ := List.mem_map.mp member
      rfl
    · intro reply given
      cases given
      rfl

/-- Whatever is done in a session, its handles are remembered: names are learned
once, from a successful resolve of the handle itself, and nothing else about a
handle ever changes. -/
theorem handles_remembered (state : State) (run : List Step) :
    Remembered state run (state.steps run).2 where
  kept _ _ present := kept_after present run
  known _ _ _ present known :=
    ⟨steps_known present known run, step_resolve_known (steps_known present known run) known⟩
  unknown index handle present unknown := by
    obtain ⟨looked, answered, -⟩ := step_resolve_unknown present unknown
    exact ⟨looked, answered⟩
  learned _ _ _ present answered := resolve_learns present answered
  failed _ _ failed := failed_resolve failed
  enumerated := enumerate_adds _
  signaled target signal ignoreVanished := step_signal _ target signal ignoreVanished
  compared first second a b presentFirst presentSecond := by
    obtain ⟨nowFirst, thereFirst, sameFirst, -⟩ := kept_after presentFirst run
    obtain ⟨nowSecond, thereSecond, sameSecond, -⟩ := kept_after presentSecond run
    simp only [step, thereFirst, thereSecond, ← sameFirst, ← sameSecond]
    rfl

end State
end NamedSignal.Session
