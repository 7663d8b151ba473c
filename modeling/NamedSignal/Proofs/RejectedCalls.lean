import NamedSignal.Program.Step
import NamedSignal.Proofs.CallStatus

/-!
Calls that are turned away. A call has an effect only from the point on at which
it carries out a plan, and a call that carries out a plan is never rejected. So a
call that is rejected, and one whose settings have a fault that escapes, leaves
the process as it was, and what comes later is as if it had not been made.
-/
namespace NamedSignal.Program

/-- The call is rejected, or its settings have a fault that escapes. -/
def Ending.isTurnedAway : Ending → Bool
  | .rejected _ | .escaped (.settings _) => true
  | _ => false

theorem Ending.isTurnedAway_iff {ending : Ending} : ending.isTurnedAway = true ↔
    ending.status? = some 2 ∨ ∃ fault, ending = .escaped (.settings fault) := by
  cases ending with
  | escaped fault => cases fault <;> simp [isTurnedAway, status?]
  | _ => simp [isTurnedAway, status?]

section Call

variable (state : State) (host : Host) (environment : Environment) (line : List Text)

/-- A call that carries out a plan is not turned away. -/
theorem execute_stays (plan : Plan) :
    (execute state host environment plan).1.ending.isTurnedAway = false := by
  rw [execute_ending]
  match (setUp state.book plan).1 with
  | .error fault => rfl
  | .ok () =>
    cases plan.result host environment with
    | ok signaled => rfl
    | error failure => cases hostError : failure.isHostError <;> simp [endingFor, hostError] <;> rfl

/-- A call carries out a plan, or it has no effect at all. -/
theorem call_effect :
    (∃ plan, call state host environment line = execute state host environment plan) ∨
      (call state host environment line).1.events = [] ∧
        (call state host environment line).2 = state := by
  unfold call
  match Options.parse line with
  | .error error => exact .inr ⟨rfl, rfl⟩
  | .ok .help => exact .inr ⟨rfl, rfl⟩
  | .ok (.run options) =>
    simp only
    cases plan state.book.workspace options with
    | ok plan => exact .inl ⟨plan, rfl⟩
    | error fault => cases fault <;> exact .inr ⟨rfl, rfl⟩

end Call

namespace State

theorem steps_append (state : State) (first second : List Step) :
    (state.steps (first ++ second)).2 = ((state.steps first).2.steps second).2 := by
  induction first generalizing state with
  | nil => rfl
  | cons step rest ih => exact ih (state.step step).2

end State

/-- A call that ends with status 2, or whose settings have a fault that escapes,
looks at nothing, delivers nothing and tells nothing, and leaves files, log and
clock as they were, whatever the process has done before. What the process is in
after further steps is the same without the call. -/
theorem turned_away_changes_nothing (state : State) (earlier later : List Step) (host : Host)
    (environment : Environment) (line : List Text)
    (turned : (call (state.steps earlier).2 host environment line).1.ending.status? = some 2 ∨
      ∃ fault, (call (state.steps earlier).2 host environment line).1.ending =
        .escaped (.settings fault)) :
    let before := (state.steps earlier).2
    (call before host environment line).1.events = [] ∧
      (call before host environment line).2 = before ∧
      (state.steps (earlier ++ .call host environment line :: later)).2 =
        (state.steps (earlier ++ later)).2 := by
  intro before
  rcases call_effect before host environment line with ⟨plan, called⟩ | ⟨silent, same⟩
  -- What carries out a plan is not turned away, so this call had no effect.
  · have away := Ending.isTurnedAway_iff.mpr turned
    rw [called, execute_stays] at away
    cases away
  · refine ⟨silent, same, ?_⟩
    have stays : (before.step (.call host environment line)).2 = before := same
    rw [State.steps_append, State.steps_append]
    exact congrArg (fun state => (State.steps state later).2) stays

/-- A process with a settings file whose bytes are no text. -/
def rawSettingsState : State :=
  ⟨{ workspace := ⟨⟨"/", ["w"]⟩, [["w"]], [(["w", "raw"], [0xFF])]⟩, now := 0 }, ⟨[]⟩⟩

/-- Command lines without a signal, with one that is not known, with a level that
is not known, and with settings that are absent or no text. -/
def turnedAwayLines : List (List Text) :=
  [["w"], ["w", "NOPE"], ["w", "9", "--log-level", "loud"], ["w", "9", "--config", "absent"],
    ["w", "9", "--config", "raw"]]

/-- Behind a call that sets up the log, calls of all sorts are turned away and
change nothing. -/
theorem turned_away_after_call :
    let first : Step := .call Proc.Pass.crowdedHost (fun _ => none)
      ["w", "TERM", "--proc-root", "/p", "--log-file", "log"]
    let before := (rawSettingsState.steps [first]).2
    before.book.isSetUp = true ∧
    ∀ line ∈ turnedAwayLines,
      let answer := call before Proc.Pass.crowdedHost (fun _ => none) line
      answer.1.ending.isTurnedAway = true ∧ answer.1.events = [] ∧ answer.2 = before := by
  intro first before
  refine ⟨by decide +kernel, fun line member => ?_⟩
  have away : ∀ line ∈ turnedAwayLines,
      (call before Proc.Pass.crowdedHost (fun _ => none) line).1.ending.isTurnedAway = true := by
    decide +kernel
  have turned := away line member
  obtain ⟨silent, same, -⟩ := turned_away_changes_nothing rawSettingsState [first] []
    Proc.Pass.crowdedHost (fun _ => none) line (Ending.isTurnedAway_iff.mp turned)
  exact ⟨turned, silent, same⟩

end NamedSignal.Program
