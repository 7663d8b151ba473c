import NamedSignal.Proofs.FileGrowth
import NamedSignal.Proofs.ForeignFailures
import NamedSignal.Proofs.SettingsFaults

/-!
The status a call ends with, told from what it is given. Errors on the command
line and refused settings give 2, a host error during the pass gives 1, help and
a whole pass give 0. Every other fault escapes and leaves no status. `Escapes` lists
them for a host that refuses with error numbers only, whatever the path
(`Host.listing`), and a signal that is a word (`Options.Found.place`).
-/
namespace NamedSignal

namespace Log.Logbook

/-- A logbook cannot be set up exactly if it is not yet and its file cannot be
opened. -/
theorem setUp_error_iff (book : Logbook) (level : Level) (file : Option Text) :
    (∃ fault, (book.setUp level file).1 = .error fault) ↔
      book.isSetUp = false ∧ ∃ path, file = some path ∧
        ∃ fault, (openFile book.workspace (Path.Normal.ofText path)).1 = .error fault := by
  unfold setUp
  cases ready : book.isSetUp with
  | true => simp
  | false =>
    cases file with
    | none => simp
    | some path =>
      simp only [Bool.false_eq_true, ↓reduceIte, Option.some.injEq, exists_eq_left', true_and,
        attach_workspace]
      cases openFile book.workspace (Path.Normal.ofText path) with
      | mk result later => cases result <;> simp

end Log.Logbook

namespace Program

/-- The log file that is asked for cannot be used. -/
inductive LogUnusable (book : Log.Logbook) : Option Argument → Prop where
  | notPath : LogUnusable book (some .nothing)
  | unopened {file : Text} {fault : Log.SetUpFault}
      (failed : (Log.openFile book.workspace (Path.Normal.ofText file)).1 = .error fault) :
      LogUnusable book (some (.word file))

theorem setUp_error_iff (book : Log.Logbook) (plan : Plan) :
    (∃ fault, (setUp book plan).1 = .error fault) ↔
      book.isSetUp = false ∧ LogUnusable book plan.logFile := by
  unfold setUp
  match plan.logFile with
  | none =>
    simp only [Log.Logbook.setUp_error_iff]
    constructor
    · rintro ⟨-, path, absent, -⟩
      cases absent
    · rintro ⟨-, unusable⟩
      cases unusable
  | some (.word file) =>
    simp only [Log.Logbook.setUp_error_iff, Option.some.injEq, exists_eq_left']
    constructor
    · rintro ⟨fresh, fault, failed⟩
      exact ⟨fresh, .unopened failed⟩
    · rintro ⟨fresh, unusable⟩
      cases unusable with
      | unopened failed => exact ⟨fresh, _, failed⟩
  | some .nothing =>
    cases ready : book.isSetUp with
    | true => simp [Log.Logbook.setUp, ready]
    | false => simpa using LogUnusable.notPath

/-- The pass that a plan asks for, if its root is a path. -/
def Plan.pass? (plan : Plan) (host : Host) (environment : Environment) : Option Proc.Pass :=
  let beneath (root : Text) : Proc.Pass :=
    ⟨host, ⟨root⟩, plan.target, plan.signal, plan.ignoreVanished⟩
  match plan.root with
  | none => some (beneath (recordsRoot environment))
  | some (.word root) => some (beneath root)
  | some .nothing => none

/-- How the pass of a plan ends. -/
def Plan.result (plan : Plan) (host : Host) (environment : Environment) :
    Except Failure (List Int) :=
  match plan.pass? host environment with
  | some pass => pass.result
  | none => .error .notPath

private theorem signalNowhere_result (target : Text) (signal : Int) (clock : Clock) :
    (Proc.signalNowhere target signal clock).result = .error .notPath := by
  have failed : (Run.fail Failure.notPath : Action (List Proc.Handle)).Does [] (.error .notPath) :=
    Run.does_fail _
  have enumerated : (Proc.Source.enumeration (Run.fail .notPath)).Does [] (.error .notPath) :=
    Timer.timed_does _ _ failed
  have reported : (Proc.signalNowhere target signal).Does [] (.error .notPath) :=
    Run.Does.after_log (Proc.Pass.reportPass_does enumerated.bind_error)
  exact reported.result_eq clock

/-- The pass of a call does what its plan says, if its root is a path. -/
theorem pass_does {host : Host} {environment : Environment} {plan : Plan} {asked : Proc.Pass}
    (rooted : plan.pass? host environment = some asked) :
    (pass host environment plan).Does asked.deeds asked.result := by
  unfold Plan.pass? at rooted
  unfold pass
  match plan.root, rooted with
  | none, rfl =>
    exact Proc.Pass.signalProcesses_does ⟨host, ⟨recordsRoot environment⟩, _, _, _⟩ _ none rfl
  | some (.word root), rfl =>
    exact Proc.Pass.signalProcesses_does ⟨host, ⟨root⟩, _, _, _⟩ _ (some root) rfl

/-- The pass of a call ends as its plan says. -/
theorem pass_result (host : Host) (environment : Environment) (plan : Plan) (clock : Clock) :
    (pass host environment plan clock).result = plan.result host environment := by
  unfold Plan.result
  cases rooted : plan.pass? host environment with
  | some asked => exact (pass_does rooted).result_eq clock
  | none =>
    unfold Plan.pass? at rooted
    unfold pass
    match plan.root, rooted with
    | some .nothing, _ => exact signalNowhere_result _ _ clock

/-- What a call makes of the ending of its pass. -/
def endingFor : Except Failure (List Int) → Ending
  | .ok _ => .success
  | .error failure => if failure.isHostError then .failure else .escaped (.pass failure)

private theorem verdict_does (target : Text) (result : Except Failure (List Int)) :
    (verdict target result).Does [] (.ok (endingFor result)) := by
  cases result with
  | ok signaled => exact (Run.does_pure _).after_log
  | error failure =>
    cases hostError : failure.isHostError with
    | true =>
      simp only [verdict, endingFor, hostError]
      exact (Run.does_pure _).after_log
    | false =>
      simp only [verdict, endingFor, hostError]
      exact Run.does_pure _

/-- A call with a plan ends as the opening of its log file and its pass do. -/
theorem execute_ending (state : State) (host : Host) (environment : Environment) (plan : Plan) :
    (execute state host environment plan).1.ending =
      match (setUp state.book plan).1 with
      | .error fault => .escaped (.logbook fault)
      | .ok () => endingFor (plan.result host environment) := by
  unfold execute
  match setUp state.book plan with
  | (.error fault, shown, book) => rfl
  | (.ok (), shown, book) =>
    have ended := (verdict_does plan.target (plan.result host environment)).result_eq
    have carried : (carryOut host environment plan state.clock).result =
        .ok (endingFor (plan.result host environment)) := by
      rw [← pass_result host environment plan state.clock] at ended ⊢
      exact ended _
    simp only [carried, endingOf]

/-- The pass of a plan fails for another reason than the host's. -/
inductive PassFails (host : Host) (environment : Environment) (plan : Plan) : Prop where
  /-- What is given for a root is no path. -/
  | rootless (nowhere : plan.root = some .nothing)
  /-- An entry of the root has too many digits. -/
  | overlong {pass : Proc.Pass} {entries : List Text} {entry : Text}
      (asked : plan.pass? host environment = some pass)
      (listed : pass.host.listing pass.source.root = .ok entries) (member : entry ∈ entries)
      (long : Proc.isOverlong entry = true)
  /-- The pass ends at a match to which the host does not take the signal. -/
  | unacceptable {pass : Proc.Pass} {pid : Int} (asked : plan.pass? host environment = some pass)
      (stopped : pass.stop? = some (.undelivered pid pass.signal .unacceptable))

theorem passFails_iff {host : Host} {environment : Environment} {plan : Plan} :
    PassFails host environment plan ↔
      ∃ failure, plan.result host environment = .error failure ∧ failure.isHostError = false := by
  constructor
  · intro fails
    unfold Plan.result
    cases fails with
    | rootless nowhere =>
      have absent : plan.pass? host environment = none := by simp [Plan.pass?, nowhere]
      exact ⟨.notPath, by rw [absent], rfl⟩
    | overlong asked listed member long =>
      rw [asked]
      exact Proc.Pass.foreign_failure_iff.mpr (.inl ⟨_, listed, _, member, long⟩)
    | unacceptable asked stopped =>
      rw [asked]
      exact Proc.Pass.foreign_failure_iff.mpr (.inr ⟨_, stopped⟩)
  · rintro ⟨failure, failed, foreign⟩
    unfold Plan.result at failed
    cases asked : plan.pass? host environment with
    | none =>
      refine .rootless ?_
      unfold Plan.pass? at asked
      split at asked
      · cases asked
      · cases asked
      · assumption
    | some pass =>
      rw [asked] at failed
      obtain ⟨entries, listed, entry, member, long⟩ | ⟨pid, stopped⟩ :=
        Proc.Pass.foreign_failure_iff.mp ⟨failure, failed, foreign⟩
      · exact .overlong asked listed member long
      · exact .unacceptable asked stopped

/-- The ways in which a fault escapes a call: unsound settings, a log file that
cannot be used, and a pass that fails for another reason than the host's. A root that
no file can have is refused by the host (`Host.listing`) and is not among them. -/
inductive Escapes (state : State) (host : Host) (environment : Environment)
    (line : List Text) : Prop where
  | settings {options : Options} {word : Text} (asked : Options.parse line = .ok (.run options))
      (config : options.flags.config = some (.word word)) (given : word ≠ [])
      (unsound : Settings.UnsoundFile state.book.workspace word)
  | logFile {options : Options} {plan : Plan} (asked : Options.parse line = .ok (.run options))
      (planned : Program.plan state.book.workspace options = .ok plan)
      (fresh : state.book.isSetUp = false) (unusable : LogUnusable state.book plan.logFile)
  | pass {options : Options} {plan : Plan} (asked : Options.parse line = .ok (.run options))
      (planned : Program.plan state.book.workspace options = .ok plan)
      (fails : PassFails host environment plan)

section Status

variable {state : State} {host : Host} {environment : Environment} {line : List Text}

theorem Escapes.asked (escapes : Escapes state host environment line) :
    ∃ options, Options.parse line = .ok (.run options) := by
  cases escapes with
  | settings asked => exact ⟨_, asked⟩
  | logFile asked => exact ⟨_, asked⟩
  | pass asked => exact ⟨_, asked⟩

/-- Without a plan a fault escapes exactly if it is no refusal. -/
theorem escapes_unplanned_iff {options : Options} {fault : Settings.Fault}
    (asked : Options.parse line = .ok (.run options))
    (unplanned : plan state.book.workspace options = .error fault) :
    Escapes state host environment line ↔ ∀ refusal, fault ≠ .refused refusal := by
  have unrefused : Settings.isUnrefused (plan state.book.workspace options) = true ↔
      ∀ refusal, fault ≠ .refused refusal := by
    rw [Settings.isUnrefused_iff, unplanned]
    simp
  rw [← unrefused, plan_unrefused_iff]
  constructor
  · intro escapes
    cases escapes with
    | settings again config given unsound =>
      cases asked.symm.trans again
      exact ⟨_, config, given, unsound⟩
    | logFile again planned =>
      cases asked.symm.trans again
      cases unplanned.symm.trans planned
    | pass again planned =>
      cases asked.symm.trans again
      cases unplanned.symm.trans planned
  · rintro ⟨word, config, given, unsound⟩
    exact .settings asked config given unsound

/-- With a plan a fault escapes exactly if the log file cannot be used or the
pass fails for another reason than the host's. -/
theorem escapes_planned_iff {options : Options} {plan : Plan}
    (asked : Options.parse line = .ok (.run options))
    (planned : Program.plan state.book.workspace options = .ok plan) :
    Escapes state host environment line ↔
      (∃ fault, (setUp state.book plan).1 = .error fault) ∨
        ∃ failure, plan.result host environment = .error failure ∧
          failure.isHostError = false := by
  rw [setUp_error_iff, ← passFails_iff]
  constructor
  · intro escapes
    cases escapes with
    | settings again config given unsound =>
      cases asked.symm.trans again
      have unrefused := (plan_unrefused_iff state.book.workspace options).mpr
        ⟨_, config, given, unsound⟩
      rw [planned] at unrefused
      cases unrefused
    | logFile again planAgain fresh unusable =>
      cases asked.symm.trans again
      cases planned.symm.trans planAgain
      exact .inl ⟨fresh, unusable⟩
    | pass again planAgain fails =>
      cases asked.symm.trans again
      cases planned.symm.trans planAgain
      exact .inr fails
  · rintro (⟨fresh, unusable⟩ | fails)
    · exact .logFile asked planned fresh unusable
    · exact .pass asked planned fails

variable (state host environment line)

/-- How a call ends, step by step along what is decided. -/
theorem call_ending : (call state host environment line).1.ending =
    match Options.parse line with
    | .error error => .rejected (.options error)
    | .ok .help => .help
    | .ok (.run options) =>
      match plan state.book.workspace options with
      | .error (.refused refusal) => .rejected (.settings refusal)
      | .error fault => .escaped (.settings fault)
      | .ok plan =>
        match (setUp state.book plan).1 with
        | .error fault => .escaped (.logbook fault)
        | .ok () => endingFor (plan.result host environment) := by
  unfold call
  cases Options.parse line with
  | error error => rfl
  | ok request =>
    cases request with
    | help => rfl
    | run options =>
      simp only
      cases plan state.book.workspace options with
      | error fault => cases fault <;> rfl
      | ok plan => exact execute_ending state host environment plan

/-- The status of a call. There is none exactly if a fault escapes. It is 2
exactly if the command line is wrong or the settings are refused, 1 exactly if
the pass fails for a reason of the host's, and 0 exactly if help is given or the
pass goes over all processes. A separator in the place of the signal counts as a wrong
command line here (`Options.Found.place`). -/
theorem call_status_exact :
    ((call state host environment line).1.ending.status? = none ↔
      Escapes state host environment line) ∧
    ((call state host environment line).1.ending.status? = some 2 ↔
      (∃ error, Options.parse line = .error error) ∨
      ∃ options refusal, Options.parse line = .ok (.run options) ∧
        plan state.book.workspace options = .error (.refused refusal)) ∧
    ((call state host environment line).1.ending.status? = some 1 ↔
      ∃ options plan failure, Options.parse line = .ok (.run options) ∧
        Program.plan state.book.workspace options = .ok plan ∧
        (setUp state.book plan).1 = .ok () ∧
        plan.result host environment = .error failure ∧ failure.isHostError = true) ∧
    ((call state host environment line).1.ending.status? = some 0 ↔
      Options.parse line = .ok .help ∨
      ∃ options plan signaled, Options.parse line = .ok (.run options) ∧
        Program.plan state.book.workspace options = .ok plan ∧
        (setUp state.book plan).1 = .ok () ∧
        plan.result host environment = .ok signaled) := by
  rw [call_ending]
  match asked : Options.parse line with
  | .error error =>
    have stays : ¬ Escapes state host environment line := by
      intro escapes
      obtain ⟨options, again⟩ := escapes.asked
      cases asked.symm.trans again
    simp [Ending.status?, stays]
  | .ok .help =>
    have stays : ¬ Escapes state host environment line := by
      intro escapes
      obtain ⟨options, again⟩ := escapes.asked
      cases asked.symm.trans again
    simp [Ending.status?, stays]
  | .ok (.run options) =>
    match planned : plan state.book.workspace options with
    | .error fault =>
      rw [escapes_unplanned_iff asked planned]
      cases fault <;> simp [Ending.status?, planned]
    | .ok plan =>
      rw [escapes_planned_iff asked planned]
      match opened : (setUp state.book plan).1 with
      | .error fault => simp [Ending.status?, planned, opened]
      | .ok () =>
        match ended : plan.result host environment with
        | .ok signaled => simp [Ending.status?, planned, opened, ended, endingFor]
        | .error failure =>
          cases hostError : failure.isHostError <;>
            simp [Ending.status?, planned, opened, ended, endingFor, hostError]

end Status

/-- A host with one process, to which no signal number is acceptable. -/
def stubbornHost : Host where
  listing path := if path == "/p" then .ok ["12"] else .error .notFound
  content _ := .bytes [0x4E, 0x61, 0x6D, 0x65, 0x3A, 0x09, 0x77, 0x0A]
  fault _ := some .unacceptable

/-- A failing delivery can leave a call without a status. -/
theorem delivery_without_status :
    (call ⟨{ workspace := ⟨⟨"/", ["w"]⟩, [["w"]], []⟩, now := 0 }, ⟨[]⟩⟩ stubbornHost
      (fun _ => none) ["w", "TERM", "--proc-root", "/p"]).1.ending.status? = none ∧
    ¬ ∀ state host environment line, ∃ status,
      (call state host environment line).1.ending.status? = some status ∧ status ≤ 2 := by
  have silent : (call ⟨{ workspace := ⟨⟨"/", ["w"]⟩, [["w"]], []⟩, now := 0 }, ⟨[]⟩⟩ stubbornHost
      (fun _ => none) ["w", "TERM", "--proc-root", "/p"]).1.ending.status? = none := by
    decide +kernel
  refine ⟨silent, fun total => ?_⟩
  obtain ⟨status, given, -⟩ := total _ _ _ _
  rw [silent] at given
  cases given

end Program
end NamedSignal
