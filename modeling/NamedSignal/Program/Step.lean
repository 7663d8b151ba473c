import NamedSignal.Program
import NamedSignal.Timer

/-!
The life of a process as a sequence of steps: calls of the program, and uses of
its log and its timers from outside. All steps share one logbook and one clock.
-/
namespace NamedSignal.Program

/-- One step in the life of a process. -/
inductive Step where
  | call (host : Host) (environment : Environment) (line : List Text)
  | setUp (level : Log.Level) (file : Option Text)
  | log (logger : Text) (level : Log.Level) (message : Text)
  | setTime (now : Float)
  | time (block : Timer.Block)

/-- What a step comes to. -/
inductive Reply where
  | answered (answer : Answer)
  | setUp (result : Except Log.SetUpFault Unit)
  | timed (ending : Except Text Unit)
  | done

/-- What is seen of a step, and what goes to the standard error stream. -/
structure Report where
  reply : Reply
  errors : Text := []

/-- The function from which records are put in from outside. -/
def emitFunction : Text := Text.ofString "emit"

namespace State

/-- Put records into the log. -/
def record (state : State) (records : List Log.Record) (reply : Reply) : Report × State :=
  let (errors, book) := state.book.enterAll records
  ({ reply, errors }, { state with book })

/-- Take one step. -/
def step (state : State) : Step → Report × State
  | .call host environment line =>
    let (answer, state) := call state host environment line
    ({ reply := .answered answer, errors := answer.errors }, state)
  | .setUp level file =>
    let (result, errors, book) := state.book.setUp level file
    ({ reply := .setUp result, errors }, { state with book })
  | .log logger level message =>
    state.record [⟨level, Log.loggerNamed logger, emitFunction, message⟩] .done
  | .setTime now => ({ reply := .done }, { state with book := { state.book with now } })
  | .time block =>
    let outcome := block.run state.clock
    { state with clock := outcome.clock }.record (outcome.events.filterMap Event.record?)
      (.timed outcome.result)

/-- Take steps in order. -/
def steps (state : State) : List Step → List Report × State
  | [] => ([], state)
  | step :: rest =>
    let first := state.step step
    let later := first.2.steps rest
    (first.1 :: later.1, later.2)

end State
end NamedSignal.Program
