import NamedSignal.Timer

/-!
What operations leave behind, read off the sequence of their events. A property
that holds of no events, and of two sequences in a row if it holds of each, holds
of a whole operation as soon as it holds of its parts, whatever the clock shows
and however the parts end. `Leaves` states that for one operation.
-/
namespace NamedSignal

/-- A sequence comes to a value only if each of its steps does. -/
theorem values_of_bind {ε α β : Type} {first : Except ε α} {rest : α → Except ε β} {last : β}
    (done : first >>= rest = .ok last) : ∃ value, first = .ok value ∧ rest value = .ok last := by
  cases first with
  | error fault => cases done
  | ok value => exact ⟨value, rfl, done⟩

/-- Items are read as a whole exactly if each of them is read. -/
theorem mapM_isSome_iff {α β : Type} {read : α → Option β} {items : List α} :
    (items.mapM read).isSome = true ↔ ∀ item ∈ items, (read item).isSome = true := by
  induction items with
  | nil => simp
  | cons item rest ih =>
    rw [List.forall_mem_cons, ← ih, List.mapM_cons]
    cases read item <;> cases rest.mapM read <;> simp

/-- The property passes from two sequences of events to the one made of both. -/
structure Event.Additive (p : List Event → Prop) : Prop where
  none : p []
  both {first second : List Event} (before : p first) (after : p second) : p (first ++ second)

/-- What is said of each event by itself passes to all of them. -/
theorem Event.Additive.each (q : Event → Prop) :
    Event.Additive fun events => ∀ event ∈ events, q event where
  none := by simp
  both before after := List.forall_mem_append.mpr ⟨before, after⟩

namespace Run

variable {ε α β : Type} {first operation : Run ε α} {rest : α → Run ε β} {clock : Clock}

/-- After a value the second operation goes on from where the clock is. -/
theorem bind_of_ok {value : α} (given : (first clock).result = .ok value) :
    (first >>= rest) clock = ⟨(first clock).events ++ (rest value (first clock).clock).events,
      (rest value (first clock).clock).clock, (rest value (first clock).clock).result⟩ := by
  show next first rest clock = _
  simp only [next, given]

/-- After a failure nothing else is done. -/
theorem bind_of_error {failure : ε} (failed : (first clock).result = .error failure) :
    (first >>= rest) clock = ⟨(first clock).events, (first clock).clock, .error failure⟩ := by
  show next first rest clock = _
  simp only [next, failed]

/-- Whatever the clock shows, the events of the operation have the property. -/
def Leaves (p : List Event → Prop) (operation : Run ε α) : Prop :=
  ∀ clock, p (operation clock).events

variable {p : List Event → Prop} (additive : Event.Additive p)

include additive

theorem leaves_pure (value : α) : (pure value : Run ε α).Leaves p := fun _ => additive.none

theorem leaves_fail (failure : ε) : (fail failure : Run ε α).Leaves p := fun _ => additive.none

theorem leaves_ofExcept (result : Except ε α) : (ofExcept result).Leaves p :=
  fun _ => additive.none

theorem leaves_now : (now : Run ε Float).Leaves p := fun _ => additive.none

omit additive in
theorem leaves_emit {event : Event} (holds : p [event]) : (emit event : Run ε Unit).Leaves p :=
  fun _ => holds

omit additive in
theorem Leaves.ended (leaves : operation.Leaves p) : operation.ended.Leaves p := leaves

/-- The second operation is only looked at behind a value of the first one. -/
theorem Leaves.bind (before : first.Leaves p) (after : ∀ value, (rest value).Leaves p) :
    (first >>= rest).Leaves p := by
  intro clock
  cases ended : (first clock).result with
  | error failure =>
    rw [bind_of_error ended]
    exact before clock
  | ok value =>
    rw [bind_of_ok ended]
    exact additive.both (before clock) (after value _)

end Run

namespace Timer

/-- A block reports on a level that only those who look for details see, unless it
is slow; it never reports an error. -/
theorem report_level (name logger : Text) (milliseconds : Float) (failure : Option Text) :
    (report name logger milliseconds failure).level = .debug ∨
      (report name logger milliseconds failure).level = .warning := by
  unfold report
  cases failure with
  | some kind => exact .inl rfl
  | none =>
    simp only
    split
    · exact .inr rfl
    · exact .inl rfl

/-- Timing a body adds one report to what it leaves behind. -/
theorem timed_leaves {ε α : Type} {kind : ε → Text} {name logger : Text} {body : Run ε α}
    {p : List Event → Prop} (additive : Event.Additive p) (leaves : body.Leaves p)
    (reported : ∀ milliseconds (result : Except ε α),
      p [.logged (report name logger milliseconds (failureKind kind result))]) :
    (timed kind name logger body).Leaves p := by
  refine Run.Leaves.bind additive (Run.leaves_now additive) fun start => ?_
  refine Run.Leaves.bind additive leaves.ended fun ending => ?_
  refine Run.Leaves.bind additive (Run.leaves_now additive) fun stop => ?_
  refine Run.Leaves.bind additive (Run.leaves_emit (reported _ _)) fun _ => ?_
  exact Run.leaves_ofExcept additive ending

end Timer
end NamedSignal
