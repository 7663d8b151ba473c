import NamedSignal.Proofs.HandleMemory
import NamedSignal.Proofs.LookupTrace

/-!
The root of a source through a session. The environment is asked for a root only
where a source is made without one of its own, and from then on the root stays with
the source. So a session answers as if every source had been given the root that the
environment named at its making, and the environment had never been set.
-/
namespace NamedSignal.Session

namespace Step

/-- The step sets the environment. -/
def setsEnvironment : Step → Bool
  | setEnvironment _ => true
  | _ => false

/-- The step makes a source. -/
def makesSource : Step → Bool
  | newSource _ => true
  | _ => false

/-- What the step reads through a source. -/
def readsThrough (source : Proc.Source) (host : Host) (handles : List Proc.Handle) :
    Step → List Text
  | enumerate => [Text.concat ["list ", source.root]]
  | resolve index =>
    match handles[index]? with
    | some { pid, name := none } => source.openings host pid
    | _ => []
  | readStatus pid => [Text.concat ["open ", source.placeOf pid "status"]]
  | readArguments pid => [Text.concat ["open ", source.placeOf pid "cmdline"]]
  | .signal target number ignoreVanished =>
    (Proc.Pass.lookups ⟨host, source, target, number, ignoreVanished⟩).filterMap Event.read?
  | _ => []

end Step

/-- The steps but for those that set the environment. -/
def visible (run : List Step) : List Step := run.filter fun step => !step.setsEnvironment

/-- What the root variable holds wherever a source is made without a root of its own. -/
def rootsNamed (environment : Environment) : List Step → List (Option Text)
  | [] => []
  | .setEnvironment later :: rest => rootsNamed later rest
  | .newSource none :: rest => environment rootVariable :: rootsNamed environment rest
  | _ :: rest => rootsNamed environment rest

/-- The environment behind some steps. -/
def environmentAfter (environment : Environment) : List Step → Environment
  | [] => environment
  | .setEnvironment later :: rest => environmentAfter later rest
  | _ :: rest => environmentAfter environment rest

/-- The steps with a root for every source that has none of its own: the one that the
root variable names if it holds these values, one after another. -/
def rooted : List Step → List (Option Text) → List Step
  | .newSource none :: rest, value :: values =>
    .newSource (some (recordsRoot fun _ => value)) :: rooted rest values
  | step :: rest, values => step :: rooted rest values
  | [], _ => []

section Cons

variable {step : Step}

theorem rooted_cons (given : step ≠ .newSource none) (rest : List Step)
    (values : List (Option Text)) :
    rooted (step :: rest) values = step :: rooted rest values := by
  cases step with
  | newSource root =>
    cases root with
    | none => exact absurd rfl given
    | some root => rfl
  | _ => rfl

theorem rootsNamed_cons (unset : step.setsEnvironment = false) (given : step ≠ .newSource none)
    (environment : Environment) (rest : List Step) :
    rootsNamed environment (step :: rest) = rootsNamed environment rest := by
  cases step with
  | newSource root =>
    cases root with
    | none => exact absurd rfl given
    | some root => rfl
  | setEnvironment later => cases unset
  | _ => rfl

theorem environmentAfter_cons (unset : step.setsEnvironment = false) (environment : Environment)
    (rest : List Step) :
    environmentAfter environment (step :: rest) = environmentAfter environment rest := by
  cases step with
  | setEnvironment later => cases unset
  | _ => rfl

end Cons

namespace State

variable {α : Type} {state : State} {step : Step} {environment : Environment}

/-- The state without its environment. -/
def unplaced (state : State) : State := { state with environment := fun _ => none }

/-- The answers to the steps but for those that set the environment. -/
def answers (state : State) (run : List Step) : List Answer :=
  ((run.zip (state.steps run).1).filter fun entry => !entry.1.setsEnvironment).map (·.2)

theorem answers_cons (seen : step.setsEnvironment = false) (rest : List Step) :
    state.answers (step :: rest) = (state.step step).1 :: (state.step step).2.answers rest := by
  simp [answers, steps, seen]

theorem steps_append (state : State) (first second : List Step) :
    (state.steps (first ++ second)).2 = ((state.steps first).2.steps second).2 := by
  induction first generalizing state with
  | nil => rfl
  | cons step rest ih => exact ih (state.step step).2

/-- An operation that is not told the environment does the same without it. -/
private theorem perform_unplaced {task : Action α} {use : State → α → Reply × State}
    (frame : ∀ state value, use (unplaced state) value =
      ((use state value).1, (use state value).2.unplaced)) :
    state.unplaced.perform task use =
      ((state.perform task use).1, (state.perform task use).2.unplaced) := by
  cases ended : (task state.clock).result with
  | error failure =>
    have unplacedEnd : (task state.unplaced.clock).result = .error failure := ended
    rw [perform_error ended, perform_error unplacedEnd]
    rfl
  | ok value =>
    have unplacedEnd : (task state.unplaced.clock).result = .ok value := ended
    rw [perform_ok ended, perform_ok unplacedEnd]
    have used := frame { state with clock := (task state.clock).clock } value
    exact congrArg (fun used : Reply × State =>
      (Answer.mk (.ok used.1) (task state.clock).events, used.2)) used

/-- No step but the making of a source without a root of its own looks at the
environment. -/
theorem step_unplaced (unseen : step.setsEnvironment = false) (given : step ≠ .newSource none) :
    state.unplaced.step step = ((state.step step).1, (state.step step).2.unplaced) := by
  cases step with
  | newSource root =>
    cases root with
    | none => exact absurd rfl given
    | some root =>
      simp only [State.step]
      exact perform_unplaced fun _ _ => rfl
  | setEnvironment later => cases unseen
  | change change => rfl
  | enumerate =>
    simp only [State.step]
    exact perform_unplaced fun _ _ => rfl
  | handle pid name => rfl
  | resolve index =>
    simp only [State.step, unplaced]
    cases state.handles[index]? with
    | none => rfl
    | some handle => exact perform_unplaced fun _ _ => rfl
  | inspect index =>
    simp only [State.step, unplaced]
    cases state.handles[index]? <;> rfl
  | compare first second =>
    simp only [State.step, unplaced]
    cases state.handles[first]? <;> cases state.handles[second]? <;> rfl
  | readStatus pid =>
    simp only [State.step]
    exact perform_unplaced fun _ _ => rfl
  | readArguments pid =>
    simp only [State.step]
    exact perform_unplaced fun _ _ => rfl
  | send pid signal =>
    simp only [State.step]
    exact perform_unplaced fun _ _ => rfl
  | signal target signal ignoreVanished =>
    simp only [State.step]
    exact perform_unplaced fun _ _ => rfl

/-- What an operation starts from besides the host, the clock and the handles. -/
private def setting (state : State) : Environment × Proc.Source :=
  (state.environment, state.source)

private theorem perform_setting {task : Action α} {use : State → α → Reply × State}
    (frame : ∀ state value, (use state value).2.setting = state.setting) :
    (state.perform task use).2.setting = state.setting :=
  perform_keeps setting (fun _ _ => rfl) frame

/-- A step that neither sets the environment nor makes a source leaves both alone. -/
private theorem step_setting (state : State) (unset : step.setsEnvironment = false)
    (unmade : step.makesSource = false) : (state.step step).2.setting = state.setting := by
  cases step with
  | newSource root => cases unmade
  | setEnvironment later => cases unset
  | change change => rfl
  | enumerate => exact perform_setting fun _ _ => rfl
  | handle pid name => rfl
  | resolve index =>
    simp only [State.step]
    split
    · rfl
    · exact perform_setting fun _ _ => rfl
  | inspect index =>
    simp only [State.step]
    split <;> rfl
  | compare first second =>
    simp only [State.step]
    split <;> rfl
  | readStatus pid => exact perform_setting fun _ _ => rfl
  | readArguments pid => exact perform_setting fun _ _ => rfl
  | send pid signal => exact perform_setting fun _ _ => rfl
  | signal target signal ignoreVanished => exact perform_setting fun _ _ => rfl

theorem step_environment (state : State) (unset : step.setsEnvironment = false) :
    (state.step step).2.environment = state.environment := by
  cases unmade : step.makesSource with
  | true =>
    cases step with
    | newSource root => rfl
    | _ => cases unmade
  | false => exact congrArg Prod.fst (step_setting state unset unmade)

theorem step_source (state : State) (unmade : step.makesSource = false) :
    (state.step step).2.source = state.source := by
  cases unset : step.setsEnvironment with
  | true =>
    cases step with
    | setEnvironment later => rfl
    | _ => cases unset
  | false => exact congrArg Prod.snd (step_setting state unset unmade)

/-- A session answers as if every source had been given the root that the environment
named at its making, and there were no environment. -/
theorem answers_rooted (state : State) (run : List Step) :
    state.answers run =
      (state.unplaced.steps (rooted (visible run) (rootsNamed state.environment run))).1 := by
  induction run generalizing state with
  | nil => rfl
  | cons step rest ih =>
    by_cases rootless : step = .newSource none
    · subst rootless
      have made : state.unplaced.step (.newSource (some (recordsRoot state.environment))) =
          ((state.step (.newSource none)).1, (state.step (.newSource none)).2.unplaced) := by
        have seen (root : Text) : (Step.newSource (some root)).setsEnvironment = false := rfl
        exact step_unplaced (seen _) nofun
      rw [answers_cons rfl, ih]
      show _ = (state.unplaced.steps (.newSource (some (recordsRoot state.environment)) ::
        rooted (visible rest) (rootsNamed state.environment rest))).1
      rw [steps, made]
      rfl
    · cases unset : step.setsEnvironment with
      | true =>
        cases step with
        | setEnvironment later => exact ih _
        | _ => cases unset
      | false =>
        have stays : (state.step step).2.environment = state.environment :=
          step_environment state unset
        have seen : visible (step :: rest) = step :: visible rest := by simp [visible, unset]
        rw [answers_cons unset, ih, seen, rooted_cons rootless, rootsNamed_cons unset rootless,
          steps, step_unplaced unset rootless, stays]

/-- The environment behind some steps is the one that was set last. -/
theorem steps_environment (state : State) (run : List Step) :
    (state.steps run).2.environment = environmentAfter state.environment run := by
  induction run generalizing state with
  | nil => rfl
  | cons step rest ih =>
    rw [steps, ih]
    cases unset : step.setsEnvironment with
    | true =>
      cases step with
      | setEnvironment later => rfl
      | _ => cases unset
    | false => rw [step_environment state unset, environmentAfter_cons unset]

/-- Steps that make no source leave the source alone. -/
theorem steps_source {run : List Step} (unmade : ∀ step ∈ run, step.makesSource = false) :
    (state.steps run).2.source = state.source := by
  induction run generalizing state with
  | nil => rfl
  | cons step rest ih =>
    obtain ⟨first, later⟩ := List.forall_mem_cons.mp unmade
    exact (ih later).trans (step_source state first)

/-- The source in use is the one made last, with the root it was given or with the one
that the environment named then. -/
theorem source_made_last {earlier between : List Step} {given : Option Text}
    (unmade : ∀ step ∈ between, step.makesSource = false) :
    (state.steps (earlier ++ .newSource given :: between)).2.source =
      ⟨given.getD (recordsRoot (environmentAfter state.environment earlier))⟩ := by
  rw [steps_append, ← steps_environment]
  exact steps_source unmade

theorem perform_events {task : Action α} {use : State → α → Reply × State} :
    (state.perform task use).1.events = (task state.clock).events := by
  cases ended : (task state.clock).result with
  | error failure => rw [perform_error ended]
  | ok value => rw [perform_ok ended]

/-- An operation reads what it is said to do. -/
private theorem perform_reads {task : Action α} {use : State → α → Reply × State}
    {deeds : List Event} {result : Except Failure α} (does : task.Does deeds result) :
    (state.perform task use).1.reads = deeds.filterMap Event.read? := by
  rw [Answer.reads, perform_events, ← does.deeds_eq state.clock, ← Outcome.reads_eq_deeds]
  rfl

/-- A step reads through the source in use, and nowhere else. -/
theorem step_reads (state : State) (step : Step) :
    (state.step step).1.reads = step.readsThrough state.source state.host state.handles := by
  cases step with
  | newSource root => rfl
  | setEnvironment later => rfl
  | change change => rfl
  | enumerate => exact perform_reads (Proc.Source.enumerate_does state.source state.host)
  | handle pid name => rfl
  | resolve index =>
    cases present : state.handles[index]? with
    | none => simp only [State.step, Step.readsThrough, present]; rfl
    | some handle =>
      obtain ⟨pid, name⟩ := handle
      cases name with
      | some name =>
        rw [step_resolve_known present rfl]
        simp only [Step.readsThrough, present]
        rfl
      | none =>
        rw [(step_resolve_unknown present rfl).1, Proc.Source.consulted_reads]
        simp only [Step.readsThrough, present]
  | inspect index =>
    simp only [State.step]
    split <;> rfl
  | compare first second =>
    simp only [State.step]
    split <;> rfl
  | readStatus pid =>
    have loaded := (Proc.Source.load_does state.host
      (state.source.recordPath pid "status")).bind_pure Proc.Status.parse
    rw [Step.readsThrough, ← Proc.Source.recordPath_eq_placeOf _ _ (by decide)]
    exact perform_reads loaded
  | readArguments pid =>
    have loaded := (Proc.Source.load_does state.host
      (state.source.recordPath pid "cmdline")).bind_pure Proc.Arguments.parse
    rw [Step.readsThrough, ← Proc.Source.recordPath_eq_placeOf _ _ (by decide)]
    exact perform_reads loaded
  | send pid signal =>
    rw [Answer.reads, State.step, perform_events, Proc.send]
    cases state.host.fault pid <;> rfl
  | signal target signal ignoreVanished =>
    rw [Answer.reads, State.step, perform_events]
    exact Proc.Pass.run_reads ⟨state.host, state.source, target, signal, ignoreVanished⟩ state.clock

end State

section Roots

variable (host : Host) (clock : Clock) {root : Option Text} {environment other : Environment}
variable {run others : List Step}

/-- A session before its first source is made. -/
def unopened (host : Host) (environment : Environment) (clock : Clock) : State :=
  { host, environment, clock, source := ⟨[]⟩, handles := [] }

/-- A session begins with the making of a source. -/
theorem start_eq (environment : Environment) (root : Option Text) :
    start host environment clock root =
      let made := (unopened host environment clock).step (.newSource root)
      (⟨.ok .done, made.1.events⟩, made.2) := rfl

/-- The root of a source is fixed when it is made. Two sessions on one host answer
alike if their steps are the same but for those that set the environment, and if the
root variable holds the same wherever a source is made without a root of its own. And
after any steps the source in use is the one made last, with the root it was given or
else with the one that the environment named then, and all that is read is read
through that source. -/
theorem root_fixed_at_making (alike : visible run = visible others)
    (named : rootsNamed environment (.newSource root :: run) =
      rootsNamed other (.newSource root :: others)) :
    let opened := start host environment clock root
    (opened.1 = (start host other clock root).1 ∧
      opened.2.answers run = (start host other clock root).2.answers others) ∧
    ∀ earlier given between, .newSource root :: run = earlier ++ .newSource given :: between →
      (∀ step ∈ between, step.makesSource = false) →
      let source : Proc.Source := ⟨given.getD (recordsRoot (environmentAfter environment earlier))⟩
      let now := (opened.2.steps run).2
      now.source = source ∧
        ∀ step, (now.step step).1.reads = step.readsThrough source now.host now.handles := by
  intro opened
  constructor
  · have whole : visible (.newSource root :: run) = visible (.newSource root :: others) :=
      congrArg (Step.newSource root :: ·) alike
    -- Without the environment both sessions begin in one state and take the same steps.
    have same : (unopened host environment clock).answers (.newSource root :: run) =
        (unopened host other clock).answers (.newSource root :: others) := by
      rw [State.answers_rooted, State.answers_rooted, whole]
      exact congrArg (fun values => ((unopened host environment clock).unplaced.steps
        (rooted (visible (.newSource root :: others)) values)).1) named
    rw [State.answers_cons rfl, State.answers_cons rfl, List.cons.injEq] at same
    simp only [opened, start_eq]
    exact ⟨congrArg (fun answer => Answer.mk (.ok .done) answer.events) same.1, same.2⟩
  · intro earlier given between split unmade source now
    have made : now.source = source := by
      have last : ((unopened host environment clock).steps
          (earlier ++ .newSource given :: between)).2.source = source :=
        State.source_made_last unmade
      rw [← split] at last
      exact last
    refine ⟨made, fun step => ?_⟩
    rw [State.step_reads, made]

end Roots

/-- An environment in which the root variable is set. -/
def placedAt (root : Text) : Environment := fun name =>
  if name == rootVariable then some root else none

/-- Setting the environment between the making of sources changes no answer, and the
pass at the end goes over the root that was named when its source was made. -/
theorem root_outlives_environment :
    let run : List Step := [.setEnvironment (placedAt "/q"), .enumerate,
      .setEnvironment (placedAt "/p"), .newSource none, .setEnvironment fun _ => none]
    let opened := start Proc.Pass.mixedHost (placedAt "/p") ⟨[]⟩ none
    let now := (opened.2.steps run).2
    opened.2.answers run = opened.2.answers [.enumerate, .newSource none] ∧
    recordsRoot now.environment = "/proc" ∧
    (now.step (.signal "w" 15 true)).1.reads = ["list /p", "open /p/5/status", "open /p/5/cmdline",
      "open /p/12/status", "open /p/7/status"].map Text.ofString := by
  intro run opened now
  have alike : visible run = visible [.enumerate, .newSource none] := rfl
  have named : rootsNamed (placedAt "/p") (.newSource none :: run) =
      rootsNamed (placedAt "/p") (.newSource none :: [.enumerate, .newSource none]) := by
    decide +kernel
  obtain ⟨⟨-, same⟩, kept⟩ := root_fixed_at_making Proc.Pass.mixedHost ⟨[]⟩ alike named
  obtain ⟨-, reads⟩ := kept [.newSource none, .setEnvironment (placedAt "/q"), .enumerate,
    .setEnvironment (placedAt "/p")] none [.setEnvironment fun _ => none] rfl
    (by simp [Step.makesSource])
  refine ⟨same, by decide +kernel, (reads _).trans ?_⟩
  decide +kernel

end NamedSignal.Session
