import NamedSignal.Proofs.Traces

/-!
What operations do apart from what they log. Operations look at the clock only to
report times, so the records they look at, the signals they deliver and the way
they end are the same on every clock. `Does` states that for one operation, and
it composes along sequences of operations.
-/
namespace NamedSignal

/-- The event is more than a log record: something is looked at or delivered. -/
def Event.isDeed : Event → Bool
  | .logged _ => false
  | _ => true

namespace Outcome

variable {ε α : Type}

/-- What was looked at and delivered, in order. -/
def deeds (outcome : Outcome ε α) : List Event := outcome.events.filter Event.isDeed

/-- What was looked at, in order. -/
def reads (outcome : Outcome ε α) : List Text := outcome.events.filterMap Event.read?

/-- What was delivered, in order. -/
def deliveries (outcome : Outcome ε α) : List (Int × Int) :=
  outcome.events.filterMap Event.delivery?

/-- What is read off events that are no log records can be read off the deeds. -/
private theorem filterMap_deeds {β : Type} {view : Event → Option β}
    (silent : ∀ record, view (.logged record) = none) (events : List Event) :
    (events.filter Event.isDeed).filterMap view = events.filterMap view := by
  have same : (fun event => if Event.isDeed event then view event else none) = view := by
    funext event
    cases event <;> simp [Event.isDeed, silent]
  rw [List.filterMap_filter, same]

theorem reads_eq_deeds (outcome : Outcome ε α) :
    outcome.reads = outcome.deeds.filterMap Event.read? :=
  (filterMap_deeds (fun _ => rfl) outcome.events).symm

theorem deliveries_eq_deeds (outcome : Outcome ε α) :
    outcome.deliveries = outcome.deeds.filterMap Event.delivery? :=
  (filterMap_deeds (fun _ => rfl) outcome.events).symm

end Outcome

namespace Run

variable {ε α β : Type}

/-- Whatever the clock shows, the operation does these things and ends so. -/
def Does (operation : Run ε α) (deeds : List Event) (result : Except ε α) : Prop :=
  ∀ clock, (operation clock).deeds = deeds ∧ (operation clock).result = result

variable {operation first : Run ε α} {rest : α → Run ε β} {value : α} {failure : ε}
variable {deeds more : List Event} {result : Except ε α} {ending : Except ε β}

theorem Does.deeds_eq (does : operation.Does deeds result) (clock : Clock) :
    (operation clock).deeds = deeds :=
  (does clock).1

theorem Does.result_eq (does : operation.Does deeds result) (clock : Clock) :
    (operation clock).result = result :=
  (does clock).2

theorem does_pure (value : α) : (pure value : Run ε α).Does [] (.ok value) :=
  fun _ => ⟨rfl, rfl⟩

theorem does_fail (failure : ε) : (fail failure : Run ε α).Does [] (.error failure) :=
  fun _ => ⟨rfl, rfl⟩

theorem does_ofExcept (result : Except ε α) : (ofExcept result).Does [] result :=
  fun _ => ⟨rfl, rfl⟩

theorem does_emit (event : Event) (deed : event.isDeed = true) :
    (emit event : Run ε Unit).Does [event] (.ok ()) :=
  fun _ => ⟨by simp [Outcome.deeds, emit, deed], rfl⟩

theorem does_log {level : Log.Level} {logger function message : Text} :
    (log level logger function message : Run ε Unit).Does [] (.ok ()) :=
  fun _ => ⟨rfl, rfl⟩

/-- After a first operation that gives a value the second one goes on. -/
theorem Does.bind (before : first.Does deeds (.ok value))
    (after : (rest value).Does more ending) : (first >>= rest).Does (deeds ++ more) ending := by
  intro clock
  obtain ⟨done, given⟩ := before clock
  obtain ⟨doneAfter, ended⟩ := after (first clock).clock
  rw [bind_of_ok given]
  refine ⟨?_, ended⟩
  rw [← done, ← doneAfter]
  exact List.filter_append ..

/-- After a first operation that fails nothing else is done. -/
theorem Does.bind_error (before : first.Does deeds (.error failure)) :
    (first >>= rest).Does deeds (.error failure) := by
  intro clock
  obtain ⟨done, failed⟩ := before clock
  rw [bind_of_error failed]
  exact ⟨done, rfl⟩

/-- A second operation that does nothing adds nothing. -/
theorem Does.then_quiet (before : first.Does deeds (.ok value))
    (after : (rest value).Does [] ending) : (first >>= rest).Does deeds ending := by
  have whole := before.bind after
  rwa [List.append_nil] at whole

/-- A first operation that does nothing and gives a value leaves all to the second. -/
theorem Does.after_quiet (before : first.Does [] (.ok value))
    (after : (rest value).Does more ending) : (first >>= rest).Does more ending :=
  before.bind after

/-- Giving something made of the value adds nothing to what was done. -/
theorem Does.bind_pure (make : α → β) (does : operation.Does deeds result) :
    (operation >>= fun value => pure (make value)).Does deeds (result.map make) := by
  cases result with
  | error failure => exact does.bind_error
  | ok value => exact does.then_quiet (does_pure (make value))

/-- A record put into the log before an operation changes nothing it does. -/
theorem Does.after_log {level : Log.Level} {logger function message : Text}
    (does : operation.Does deeds result) :
    (log level logger function message >>= fun _ => operation).Does deeds result :=
  Does.after_quiet does_log does

theorem Does.ended (does : operation.Does deeds result) :
    operation.ended.Does deeds (.ok result) := by
  intro clock
  exact ⟨(does clock).1, congrArg Except.ok (does clock).2⟩

end Run

/-- Timing a body adds nothing to what it does and leaves its ending alone. -/
theorem Timer.timed_does {ε α : Type} {kind : ε → Text} {body : Run ε α} {deeds : List Event}
    {result : Except ε α} (name logger : Text) (does : body.Does deeds result) :
    (timed kind name logger body).Does deeds result := by
  intro clock
  obtain ⟨done, ended⟩ := does clock.read.2
  refine ⟨?_, ended⟩
  rw [← done]
  show List.filter Event.isDeed ([] ++ ((body clock.read.2).events ++ ([] ++ ([_] ++ [])))) = _
  simp [Outcome.deeds, Event.isDeed]

end NamedSignal
