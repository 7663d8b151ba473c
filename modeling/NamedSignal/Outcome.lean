import NamedSignal.Log.Record

/-!
What an operation leaves behind. A clock is a sequence of readings in seconds, and every
look at it takes the next one. An operation looks at the clock, is seen to do
things, and ends with a value or with a failure; what it did before a failure
stays done. `Run` strings such operations together, and the events of a
sequence are those of its parts in order.
-/
namespace NamedSignal

/-- The readings still to come; the last one repeats for ever. -/
structure Clock where
  readings : List Float

namespace Clock

/-- The next reading and the clock after it; a clock without readings stands at zero
(`time.perf_counter`). -/
def read (clock : Clock) : Float × Clock :=
  match clock.readings with
  | [] => (0, clock)
  | [last] => (last, clock)
  | next :: later => (next, ⟨later⟩)

end Clock

/-- A thing an operation is seen to do. -/
inductive Event where
  | listed (path : Text)
  | opened (path : Text)
  | delivered (pid signal : Int)
  | logged (record : Log.Record)
  deriving DecidableEq

/-- The events of an operation, the clock after it, and how it ended. -/
structure Outcome (ε α : Type) where
  events : List Event
  clock : Clock
  result : Except ε α

/-- An operation that may look at the clock. -/
def Run (ε α : Type) := Clock → Outcome ε α

namespace Run

variable {ε α β : Type}

/-- Do nothing and give a value. -/
def give (value : α) : Run ε α := fun clock => ⟨[], clock, .ok value⟩

/-- Go on with the value of a first operation, unless it failed. -/
def next (first : Run ε α) (rest : α → Run ε β) : Run ε β := fun clock =>
  let before := first clock
  match before.result with
  | .error failure => ⟨before.events, before.clock, .error failure⟩
  | .ok value =>
    let after := rest value before.clock
    ⟨before.events ++ after.events, after.clock, after.result⟩

instance : Monad (Run ε) where
  pure := give
  bind := next

/-- End with a failure. -/
def fail (failure : ε) : Run ε α := fun clock => ⟨[], clock, .error failure⟩

/-- End as a result says. -/
def ofExcept (result : Except ε α) : Run ε α := fun clock => ⟨[], clock, result⟩

/-- Do one thing that is seen. -/
def emit (event : Event) : Run ε Unit := fun clock => ⟨[event], clock, .ok ()⟩

/-- Put a record into the log. -/
def log (level : Log.Level) (logger function message : Text) : Run ε Unit :=
  emit (.logged ⟨level, logger, function, message⟩)

/-- Look at the clock. -/
def now : Run ε Float := fun clock => let reading := clock.read; ⟨[], reading.2, .ok reading.1⟩

/-- Run an operation and give its ending as a value, so that it cannot fail. -/
def ended (operation : Run ε α) : Run ε (Except ε α) := fun clock =>
  let outcome := operation clock
  ⟨outcome.events, outcome.clock, .ok outcome.result⟩

end Run

namespace Event

/-- The listings and openings among events, as written in a report. -/
def read? : Event → Option Text
  | listed path => some (Text.concat ["list ", path])
  | opened path => some (Text.concat ["open ", path])
  | _ => none

/-- The delivery an event is. -/
def delivery? : Event → Option (Int × Int)
  | delivered pid signal => some (pid, signal)
  | _ => none

/-- The record an event puts into the log. -/
def record? : Event → Option Log.Record
  | logged record => some record
  | _ => none

end Event
end NamedSignal
