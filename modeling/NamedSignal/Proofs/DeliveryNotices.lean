import NamedSignal.Proofs.LookupEvents

/-!
Deliveries and the records that tell of them. In a pass each delivery is followed
at once by its notice, and every other event is a look at the host or a record
that reports neither a delivery nor an error. `Accounted` states that of a
sequence of events; the notices among its records are then those of its
deliveries, one for each and in order. A pass that finds nobody says so in the end.
-/
namespace NamedSignal

/-- The record is on a level, and its message begins with some words. -/
def Log.Record.opensWith (level : Log.Level) (opening : Text) (record : Log.Record) : Bool :=
  record.level == level && opening.isPrefixOf record.message

/-- The event is a look at the host or a record for those who look for details. -/
def Event.isBackground : Event → Bool
  | .listed _ | .opened _ => true
  | .delivered .. => false
  | .logged record => record.level == .debug || record.level == .warning

/-- The event is a delivery, or a record that says it tells of one. -/
def Event.isDealing : Event → Bool
  | .listed _ | .opened _ => false
  | .delivered .. => true
  | .logged record => record.opensWith .info "Sent signal "

/-- A record in the background is neither news nor an error. -/
theorem Log.Record.plain_of_background {record : Log.Record}
    (quiet : (Event.logged record).isBackground = true) (opening : Text) :
    record.opensWith .info opening = false ∧ record.level < .error := by
  obtain ⟨level, logger, function, message⟩ := record
  simp only [Event.isBackground, Bool.or_eq_true, beq_iff_eq] at quiet
  have below : Log.Level.debug < Log.Level.error ∧ Log.Level.warning < Log.Level.error := by decide
  rcases quiet with rfl | rfl
  · exact ⟨rfl, below.1⟩
  · exact ⟨rfl, below.2⟩

namespace Timer

/-- The report of a block stays in the background. -/
theorem report_isBackground (name logger : Text) (milliseconds : Float) (failure : Option Text) :
    (Event.logged (report name logger milliseconds failure)).isBackground = true := by
  rcases report_level name logger milliseconds failure with plain | slow
  · simp [Event.isBackground, plain]
  · simp [Event.isBackground, slow]

end Timer

namespace Proc

/-- The record that tells of a delivery. -/
def notice (target : Text) (delivery : Int × Int) : Log.Record :=
  ⟨.info, dispatchLogger, "signal_by_name",
    Text.concat ["Sent signal ", Text.ofInt delivery.2, " to ", target, " (PID: ",
      Text.ofInt delivery.1, ")"]⟩

/-- The record that tells of a pass that found nobody. -/
def nobody (target : Text) : Log.Record :=
  ⟨.info, dispatchLogger, "signal_by_name",
    Text.concat ["No process named ", target.quoted, " found"]⟩

/-- A delivery and its notice. -/
def dealing (target : Text) (delivery : Int × Int) : List Event :=
  [.delivered delivery.1 delivery.2, .logged (notice target delivery)]

/-- Where deliveries and notices take turns, the notices tell of the deliveries,
one of each and in order. -/
theorem notices_of_dealings {target : Text} {events : List Event}
    (turns : events.filter Event.isDealing =
      (events.filterMap Event.delivery?).flatMap (dealing target)) :
    (events.filterMap Event.record?).filter (·.opensWith .info "Sent signal ") =
      (events.filterMap Event.delivery?).map (notice target) := by
  calc (events.filterMap Event.record?).filter (·.opensWith .info "Sent signal ")
      = (events.filter Event.isDealing).filterMap Event.record? := by
        rw [List.filter_filterMap, List.filterMap_filter]
        congr 1
        funext event
        cases event <;> rfl
    _ = (events.filterMap Event.delivery?).flatMap fun delivery => [notice target delivery] := by
        rw [turns, List.filterMap_flatMap]
        rfl
    _ = (events.filterMap Event.delivery?).map (notice target) := List.map_eq_flatMap.symm

/-- Each delivery is followed at once by its notice, and all else is background. -/
inductive Accounted (target : Text) : List Event → Prop where
  | nil : Accounted target []
  | background {event : Event} {rest : List Event} (quiet : event.isBackground = true)
      (later : Accounted target rest) : Accounted target (event :: rest)
  | delivery {pid signal : Int} {rest : List Event} (later : Accounted target rest) :
      Accounted target (.delivered pid signal :: .logged (notice target (pid, signal)) :: rest)

namespace Accounted

variable {target : Text} {events : List Event}

theorem additive (target : Text) : Event.Additive (Accounted target) where
  none := .nil
  both := by
    intro first second before after
    induction before with
    | nil => exact after
    | background quiet _ ih => exact .background quiet ih
    | delivery _ ih => exact .delivery ih

theorem single {event : Event} (quiet : event.isBackground = true) : Accounted target [event] :=
  .background quiet .nil

/-- Deliveries and notices take turns. -/
theorem dealings_eq (accounted : Accounted target events) :
    events.filter Event.isDealing = (events.filterMap Event.delivery?).flatMap (dealing target) := by
  induction accounted with
  | nil => rfl
  | @background event rest quiet _ ih =>
    cases event with
    | listed path => exact ih
    | opened path => exact ih
    | delivered pid signal => cases quiet
    | logged record =>
      have silent := (Log.Record.plain_of_background quiet "Sent signal ").1
      simp only [List.filter_cons, Event.isDealing, silent]
      exact ih
  | @delivery pid signal rest _ ih =>
    have told : (notice target (pid, signal)).opensWith .info "Sent signal " = true := by
      simp [Log.Record.opensWith, notice, Text.concat]
    have here : (Event.logged (notice target (pid, signal))).isDealing = true := told
    have sent : (Event.delivered pid signal).isDealing = true := rfl
    rw [List.filter_cons_of_pos sent, List.filter_cons_of_pos here, ih]
    rfl

/-- What holds of notices and of records in the background holds of all records. -/
theorem each_record {q : Log.Record → Prop}
    (quiet : ∀ record, (Event.logged record).isBackground = true → q record)
    (told : ∀ delivery, q (notice target delivery)) (accounted : Accounted target events) :
    ∀ record ∈ events.filterMap Event.record?, q record := by
  induction accounted with
  | nil => simp
  | @background event rest background _ ih =>
    cases event with
    | listed path => exact ih
    | opened path => exact ih
    | delivered pid signal => cases background
    | logged record => exact List.forall_mem_cons.mpr ⟨quiet record background, ih⟩
  | delivery _ ih => exact List.forall_mem_cons.mpr ⟨told _, ih⟩

/-- Nothing that is told is an error. -/
theorem level_lt_error (accounted : Accounted target events) :
    ∀ record ∈ events.filterMap Event.record?, record.level < .error := by
  have news : Log.Level.info < Log.Level.error := by decide
  exact accounted.each_record
    (fun _ background => (Log.Record.plain_of_background background []).2) fun _ => news

/-- Nothing says that nobody was found. -/
theorem not_nobody (accounted : Accounted target events) :
    ∀ record ∈ events.filterMap Event.record?,
      record.opensWith .info "No process named " = false :=
  accounted.each_record
    (fun _ background => (Log.Record.plain_of_background background _).1) fun _ => rfl

end Accounted

/-- Looking processes up stays in the background. -/
theorem Source.Shows.isBackground {root : Text} {event : Event} (shows : Source.Shows root event) :
    event.isBackground = true := by
  cases shows with
  | timed => exact Timer.report_isBackground ..
  | _ => rfl

theorem Accounted.shown (target root : Text) (event : Event) (shows : Source.Shows root event) :
    Accounted target [event] :=
  .single shows.isBackground

section Pass

variable (host : Host) (source : Source) (target : Text) (signal : Int) (ignoreVanished : Bool)

section Leaves

variable {p : List Event → Prop} (additive : Event.Additive p)
  (dealt : ∀ delivery, p (dealing target delivery))

include additive dealt

/-- A delivery that fails leaves nothing behind, and any other its notice. -/
theorem signalOne_leaves (handle : Handle) : (signalOne host target signal handle).Leaves p := by
  intro clock
  unfold signalOne send
  cases host.fault handle.pid with
  | none => exact dealt (handle.pid, signal)
  | some fault => exact additive.none

/-- Going over processes leaves behind what lookups show, and dealings. -/
theorem signalEach_leaves (shows : ∀ event, Source.Shows source.root event → p [event])
    (handles : List Handle) :
    (source.signalEach host target signal ignoreVanished handles).Leaves p := by
  induction handles with
  | nil => exact Run.leaves_pure additive _
  | cons handle rest ih =>
    have asked := Source.matches_leaves additive shows host source target ignoreVanished handle
    refine Run.Leaves.bind additive asked fun matched => ?_
    cases matched with
    | true =>
      have sent := signalOne_leaves host target signal additive dealt handle
      refine Run.Leaves.bind additive sent fun _ => ?_
      exact Run.Leaves.bind additive ih fun _ => Run.leaves_pure additive _
    | false => exact ih

end Leaves

theorem signalEach_accounted (handles : List Handle) :
    (source.signalEach host target signal ignoreVanished handles).Leaves (Accounted target) :=
  signalEach_leaves host source target signal ignoreVanished (Accounted.additive target)
    (fun _ => .delivery .nil) (Accounted.shown target source.root) handles

/-- What is said at the end of a pass: that it found nobody, if so. -/
def farewell (target : Text) : Except Failure (List Int) → List Log.Record
  | .ok [] => [nobody target]
  | _ => []

/-- All up to the farewell of the operation is accounted for. -/
def AccountedTo (target : Text) (operation : Action (List Int)) : Prop :=
  ∀ clock, ∃ account, Accounted target account ∧
    (operation clock).events =
      account ++ (farewell target (operation clock).result).map Event.logged

/-- An operation that is accounted for may be put in front. -/
theorem AccountedTo.after {α : Type} {target : Text} {first : Action α}
    {rest : α → Action (List Int)} (before : first.Leaves (Accounted target))
    (after : ∀ value, AccountedTo target (rest value)) : AccountedTo target (first >>= rest) := by
  intro clock
  cases ended : (first clock).result with
  | error failure =>
    rw [Run.bind_of_error ended]
    exact ⟨_, before clock, (List.append_nil _).symm⟩
  | ok value =>
    obtain ⟨account, accounted, events⟩ := after value (first clock).clock
    rw [Run.bind_of_ok ended]
    refine ⟨_, (Accounted.additive target).both (before clock) accounted, ?_⟩
    simp only [events, List.append_assoc]

theorem reportPass_accounted {body : Action (List Int)} (leaves : body.Leaves (Accounted target)) :
    AccountedTo target (reportPass target signal body) := by
  have additive := Accounted.additive target
  have begun : (Run.log .debug dispatchLogger "signal_by_name"
      (Text.concat ["signal_by_name called (name=", target.quoted, ", signal=",
        Text.ofInt signal, ")"]) : Action Unit).Leaves (Accounted target) :=
    Run.leaves_emit (.single rfl)
  refine AccountedTo.after begun fun _ => ?_
  have timed : (Timer.timed failureKind (Text.concat ["signal_by_name(", target.quoted, ")"])
      dispatchLogger body).Leaves (Accounted target) :=
    Timer.timed_leaves additive leaves fun _ _ => .single (Timer.report_isBackground ..)
  refine AccountedTo.after timed fun signaled clock => ⟨[], .nil, ?_⟩
  cases signaled with
  | nil => rfl
  | cons pid rest => rfl

private theorem announce_accounted (root : Text) :
    (Source.announce root).Leaves (Accounted target) :=
  Run.leaves_emit (.single rfl)

/-- Signaling by name is accounted for up to its farewell. -/
theorem signalProcesses_accounted (environment : Environment) (root : Option Text) :
    AccountedTo target
      (signalProcesses host environment target signal root ignoreVanished) := by
  have additive := Accounted.additive target
  have created : (Source.create environment root).Leaves (Accounted target) :=
    Run.Leaves.bind additive (announce_accounted target _) fun _ => Run.leaves_pure additive _
  refine AccountedTo.after created fun source => ?_
  refine reportPass_accounted target signal ?_
  refine Run.Leaves.bind additive ?_ fun handles => ?_
  · exact Source.enumerate_leaves additive (Accounted.shown target source.root) host
  · exact signalEach_accounted host source target signal ignoreVanished handles

theorem signalNowhere_accounted : AccountedTo target (signalNowhere target signal) := by
  have additive := Accounted.additive target
  refine AccountedTo.after (announce_accounted target _) fun _ => ?_
  refine reportPass_accounted target signal ?_
  refine Run.Leaves.bind additive ?_ fun _ => Run.leaves_pure additive _
  exact Source.enumeration_leaves additive (Accounted.shown target []) (Run.leaves_fail additive _)

end Pass

end Proc
end NamedSignal
