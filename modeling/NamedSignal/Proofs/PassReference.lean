import NamedSignal.Proc.Dispatch
import NamedSignal.Proofs.NameLookup

/-!
What a pass over the processes comes to, told without running it. `stopAt` says
whether a pass ends at a process and why, from the host's records and its
willingness to deliver alone; the first process at which it ends decides the
result, and the matches before that one are exactly those that are signaled.
-/
namespace NamedSignal.Proc

/-- All that a pass depends on, but the clock. -/
structure Pass where
  host : Host
  source : Source
  target : Text
  signal : Int
  ignoreVanished : Bool

/-- Why a pass ends before it has gone over all processes. -/
inductive Stop where
  | unlisted (failure : Failure)
  | unresolved (pid : Int) (failure : Failure)
  | undelivered (pid signal : Int) (fault : DeliveryFault)
  deriving DecidableEq

/-- What a pass that ends fails with. -/
def Stop.failure : Stop → Failure
  | unlisted failure | unresolved _ failure => failure
  | undelivered pid signal fault => fault.failure pid signal

namespace Pass

variable (pass : Pass)

/-- Carry the pass out. -/
def run : Action (List Int) :=
  pass.source.signalByName pass.host pass.target pass.signal pass.ignoreVanished

/-- The pass goes on although a name cannot be told. -/
def skips (failure : Failure) : Bool := pass.ignoreVanished && failure.isVanished

/-- The process has the target for its name. -/
def isMatch (pid : Int) : Bool :=
  match pass.source.nameOf pass.host pid with
  | .ok name => name == pass.target
  | .error _ => false

/-- Why the pass ends at a process, if it does: the name cannot be told and that
is not skipped, or the process is a match and does not take the signal. -/
def stopAt (pid : Int) : Option Stop :=
  match pass.source.nameOf pass.host pid with
  | .error failure => if pass.skips failure then none else some (.unresolved pid failure)
  | .ok name =>
    if name == pass.target then
      (pass.host.fault pid).map (.undelivered pid pass.signal)
    else none

/-- The pass goes on behind a process. -/
def goesPast (pid : Int) : Bool := (pass.stopAt pid).isNone

/-- The processes in front of the first one at which the pass ends. -/
def passed (pids : List Int) : List Int := pids.takeWhile pass.goesPast

/-- The processes that are looked at: those passed and the one at which the pass
ends. -/
def reached (pids : List Int) : List Int :=
  pass.passed pids ++ (pids.dropWhile pass.goesPast).take 1

/-- The matches among processes that the pass signals. -/
def signaled (pids : List Int) : List Int := (pass.passed pids).filter pass.isMatch

/-- What is done at a process that is reached. -/
def deedsAt (pid : Int) : List Event :=
  pass.source.consulted pass.host pid ++
    if pass.isMatch pid && pass.goesPast pid then [.delivered pid pass.signal] else []

/-- How a pass over processes ends. -/
def ending (pids : List Int) : Except Failure (List Int) :=
  match pids.findSome? pass.stopAt with
  | some stop => .error stop.failure
  | none => .ok (pids.filter pass.isMatch)

variable {pass}

theorem stopAt_of_unnamed {pid : Int} {failure : Failure}
    (unnamed : pass.source.nameOf pass.host pid = .error failure) :
    pass.stopAt pid = if pass.skips failure then none else some (.unresolved pid failure) := by
  simp only [stopAt, unnamed]

theorem stopAt_of_named {pid : Int} {name : Text}
    (named : pass.source.nameOf pass.host pid = .ok name) :
    pass.stopAt pid = if name == pass.target then
      (pass.host.fault pid).map (.undelivered pid pass.signal) else none := by
  simp only [stopAt, named]

/-- A process is a match exactly if it has the target for its name. -/
theorem isMatch_iff {pid : Int} :
    pass.isMatch pid = true ↔ pass.source.nameOf pass.host pid = .ok pass.target := by
  unfold isMatch
  cases pass.source.nameOf pass.host pid with
  | error failure => simp
  | ok name => simp

/-- A pass ends at a process for one of two reasons. -/
theorem stopAt_cases {pid : Int} {stop : Stop} (stops : pass.stopAt pid = some stop) :
    (∃ failure, pass.source.nameOf pass.host pid = .error failure ∧
      stop = .unresolved pid failure) ∨
    ∃ fault, pass.isMatch pid = true ∧ pass.host.fault pid = some fault ∧
      stop = .undelivered pid pass.signal fault := by
  cases named : pass.source.nameOf pass.host pid with
  | error failure =>
    rw [stopAt_of_unnamed named] at stops
    split at stops
    · cases stops
    · cases stops
      exact .inl ⟨failure, rfl, rfl⟩
  | ok name =>
    rw [stopAt_of_named named] at stops
    split at stops
    · rename_i same
      obtain ⟨fault, faulty, rfl⟩ := Option.map_eq_some_iff.mp stops
      exact .inr ⟨fault, isMatch_iff.mpr (beq_iff_eq.mp same ▸ named), faulty, rfl⟩
    · cases stops

/-- A match at which the pass does not end takes the signal. -/
theorem fault_of_past {pid : Int} (past : pass.stopAt pid = none)
    (matched : pass.isMatch pid = true) : pass.host.fault pid = none := by
  rw [stopAt_of_named (isMatch_iff.mp matched), if_pos (beq_self_eq_true _)] at past
  exact Option.map_eq_none_iff.mp past

/-- The same pass on another host. -/
def on (pass : Pass) (host : Host) : Pass := { pass with host }

section OtherHost

variable {other : Host} {pid : Int}

/-- Whether a pass ends at a process is settled by its name and by how it takes signals. -/
theorem stopAt_on (named : pass.source.nameOf other pid = pass.source.nameOf pass.host pid)
    (taken : other.fault pid = pass.host.fault pid) : (pass.on other).stopAt pid = pass.stopAt pid := by
  have there : (pass.on other).source.nameOf (pass.on other).host pid =
      pass.source.nameOf pass.host pid := named
  cases here : pass.source.nameOf pass.host pid with
  | error failure =>
    rw [here] at there
    rw [stopAt_of_unnamed there, stopAt_of_unnamed here]
    rfl
  | ok name =>
    rw [here] at there
    rw [stopAt_of_named there, stopAt_of_named here, ← taken]
    rfl

theorem isMatch_on (named : pass.source.nameOf other pid = pass.source.nameOf pass.host pid) :
    (pass.on other).isMatch pid = pass.isMatch pid := by
  unfold isMatch
  exact congrArg (fun name => match name with
    | .ok name => name == pass.target
    | .error _ => false) named

end OtherHost

theorem goesPast_of_none {pid : Int} (clear : pass.stopAt pid = none) :
    pass.goesPast pid = true := by
  rw [goesPast, clear]
  rfl

theorem goesPast_of_stop {pid : Int} {stop : Stop} (stops : pass.stopAt pid = some stop) :
    pass.goesPast pid = false := by
  rw [goesPast, stops]
  rfl

private theorem deedsAt_of_other {pid : Int} (unmatched : pass.isMatch pid = false) :
    pass.deedsAt pid = pass.source.consulted pass.host pid := by
  simp [deedsAt, unmatched]

private theorem deedsAt_of_stop {pid : Int} {stop : Stop} (stops : pass.stopAt pid = some stop) :
    pass.deedsAt pid = pass.source.consulted pass.host pid := by
  simp [deedsAt, goesPast_of_stop stops]

private theorem deedsAt_of_match {pid : Int} (matched : pass.isMatch pid = true)
    (clear : pass.stopAt pid = none) :
    pass.deedsAt pid = pass.source.consulted pass.host pid ++ [.delivered pid pass.signal] := by
  simp [deedsAt, matched, goesPast_of_none clear]

/-- Asking whether a process is a match looks its name up; only a failure that
is not skipped ends the asking. -/
private theorem matches_does (pass : Pass) (pid : Int) :
    (pass.source.matches pass.host pass.target pass.ignoreVanished { pid }).Does
      (pass.source.consulted pass.host pid)
      (match pass.source.nameOf pass.host pid with
        | .ok name => .ok (name == pass.target)
        | .error failure => if pass.skips failure then .ok false else .error failure) := by
  have fresh : ({ pid } : Handle).name = none := rfl
  have resolved := (Source.resolve_unknown_does pass.source pass.host fresh).ended
  unfold Source.matches
  refine resolved.then_quiet ?_
  cases pass.source.nameOf pass.host pid with
  | ok name => exact Run.does_pure _
  | error failure =>
    simp only [Except.map, skips, Failure.meansGone_eq_isVanished]
    by_cases skipped : (pass.ignoreVanished && failure.isVanished) = true
    · simp only [skipped, ↓reduceIte]
      exact (Run.does_pure false).after_log
    · simp only [skipped]
      exact Run.does_fail failure

/-- A match that takes the signal is signaled, any other is not. -/
private theorem signalOne_does (pass : Pass) (pid : Int) :
    (signalOne pass.host pass.target pass.signal { pid }).Does
      (if (pass.host.fault pid).isNone then [.delivered pid pass.signal] else [])
      (match pass.host.fault pid with
        | none => .ok ()
        | some fault => .error (fault.failure pid pass.signal)) := by
  unfold signalOne send
  cases pass.host.fault pid with
  | none =>
    refine (Run.does_emit (.delivered pid pass.signal) rfl).then_quiet ?_
    exact Run.does_log
  | some fault => exact (Run.does_fail _).bind_error

theorem reached_cons (pid : Int) (rest : List Int) :
    pass.reached (pid :: rest) = pid :: if pass.goesPast pid then pass.reached rest else [] := by
  by_cases past : pass.goesPast pid = true <;> simp [reached, passed, past]

theorem signaled_cons (pid : Int) (rest : List Int) :
    pass.signaled (pid :: rest) =
      if pass.goesPast pid then
        if pass.isMatch pid then pid :: pass.signaled rest else pass.signaled rest
      else [] := by
  by_cases past : pass.goesPast pid = true <;> simp [signaled, passed, past, List.filter_cons]

theorem ending_cons (pid : Int) (rest : List Int) :
    pass.ending (pid :: rest) =
      match pass.stopAt pid with
      | some stop => .error stop.failure
      | none =>
        if pass.isMatch pid then (pass.ending rest).map (pid :: ·) else pass.ending rest := by
  simp only [ending, List.findSome?_cons]
  cases pass.stopAt pid with
  | some stop => rfl
  | none =>
    simp only [List.filter_cons]
    cases pass.isMatch pid with
    | true => cases rest.findSome? pass.stopAt <;> rfl
    | false => cases rest.findSome? pass.stopAt <;> rfl

/-- Going over processes reaches them in order up to the first one at which the
pass ends, and ends as that one says. -/
private theorem signalEach_does (pass : Pass) (pids : List Int) :
    (pass.source.signalEach pass.host pass.target pass.signal pass.ignoreVanished
        (pids.map fun pid => { pid })).Does
      ((pass.reached pids).flatMap pass.deedsAt) (pass.ending pids) := by
  induction pids with
  | nil => exact Run.does_pure []
  | cons pid rest ih =>
    have asked := matches_does pass pid
    have tried := signalOne_does pass pid
    rw [reached_cons, ending_cons, List.flatMap_cons]
    -- The rest is only run where `stopAt` is `none`, so `ih` is used in those cases alone.
    cases named : pass.source.nameOf pass.host pid with
    | error failure =>
      rw [named] at asked
      have unmatched : pass.isMatch pid = false := by simp [isMatch, named]
      by_cases skipped : pass.skips failure = true
      · have past : pass.stopAt pid = none := by rw [stopAt_of_unnamed named, if_pos skipped]
        simp only [skipped, ↓reduceIte] at asked
        rw [deedsAt_of_other unmatched, past, goesPast_of_none past, unmatched]
        exact asked.bind ih
      · have stops : pass.stopAt pid = some (.unresolved pid failure) := by
          rw [stopAt_of_unnamed named, if_neg skipped]
        simp only [skipped] at asked
        rw [deedsAt_of_stop stops, stops, goesPast_of_stop stops, if_neg Bool.false_ne_true,
          List.flatMap_nil, List.append_nil]
        exact asked.bind_error
    | ok name =>
      rw [named] at asked
      have known := stopAt_of_named named
      by_cases same : (name == pass.target) = true
      · have matched : pass.isMatch pid = true := by simp [isMatch, named, same]
        simp only [same] at asked
        rw [if_pos same] at known
        cases taken : pass.host.fault pid with
        | none =>
          rw [taken] at tried known
          rw [deedsAt_of_match matched known, known, goesPast_of_none known, matched,
            List.append_assoc]
          exact asked.bind (tried.bind (ih.bind_pure (pid :: ·)))
        | some fault =>
          rw [taken] at tried known
          rw [deedsAt_of_stop known, known, goesPast_of_stop known, if_neg Bool.false_ne_true,
            List.flatMap_nil, List.append_nil]
          exact asked.then_quiet tried.bind_error
      · have unmatched : pass.isMatch pid = false := by simp [isMatch, named, same]
        simp only [same] at asked
        rw [if_neg same] at known
        rw [deedsAt_of_other unmatched, known, goesPast_of_none known, unmatched]
        exact asked.bind ih

/-- Telling of a pass adds nothing to what it does. -/
theorem reportPass_does {target : Text} {signal : Int} {body : Action (List Int)}
    {deeds : List Event} {result : Except Failure (List Int)} (does : body.Does deeds result) :
    (reportPass target signal body).Does deeds result := by
  have timed : (Timer.timed failureKind (Text.concat ["signal_by_name(", target.quoted, ")"])
      dispatchLogger body).Does deeds result := Timer.timed_does _ _ does
  unfold reportPass
  refine Run.Does.after_log ?_
  cases result with
  | error failure => exact timed.bind_error
  | ok signaled =>
    refine timed.then_quiet ?_
    cases signaled with
    | nil => exact (Run.does_pure []).after_log
    | cons pid rest => exact Run.does_pure (pid :: rest)

/-- All that a pass looks at and delivers, in order. -/
def deeds (pass : Pass) : List Event :=
  .listed pass.source.root ::
    match pass.source.roll pass.host with
    | .error _ => []
    | .ok pids => (pass.reached pids).flatMap pass.deedsAt

/-- How a pass ends. -/
def result (pass : Pass) : Except Failure (List Int) :=
  match pass.source.roll pass.host with
  | .error failure => .error failure
  | .ok pids => pass.ending pids

/-- Why a pass ends early, if it does. -/
def stop? (pass : Pass) : Option Stop :=
  match pass.source.roll pass.host with
  | .error failure => some (.unlisted failure)
  | .ok pids => pids.findSome? pass.stopAt

theorem result_of_stop {stop : Stop} (stopped : pass.stop? = some stop) :
    pass.result = .error stop.failure := by
  unfold stop? at stopped
  unfold result
  cases rolled : pass.source.roll pass.host with
  | error failure =>
    rw [rolled] at stopped
    cases stopped
    rfl
  | ok pids =>
    rw [rolled] at stopped
    simp only at stopped
    simp only [ending, stopped]

/-- What a pass delivers, in order. -/
def deliveries (pass : Pass) : List (Int × Int) :=
  match pass.source.roll pass.host with
  | .error _ => []
  | .ok pids => (pass.signaled pids).map fun pid => (pid, pass.signal)

/-- What a pass looks at, in order: the root, and the records of the processes
that it reaches. -/
def lookups (pass : Pass) : List Event :=
  .listed pass.source.root ::
    match pass.source.roll pass.host with
    | .error _ => []
    | .ok pids => (pass.reached pids).flatMap (pass.source.consulted pass.host)

/-- A pass does what is told of it and ends so, whatever the clock shows. -/
theorem run_does (pass : Pass) : pass.run.Does pass.deeds pass.result := by
  have enumerated := Source.enumerate_does pass.source pass.host
  refine reportPass_does ?_
  unfold deeds result
  cases rolled : pass.source.roll pass.host with
  | error failure =>
    rw [rolled] at enumerated
    exact enumerated.bind_error
  | ok pids =>
    rw [rolled] at enumerated
    exact enumerated.bind (signalEach_does pass pids)

theorem run_result (pass : Pass) (clock : Clock) : (pass.run clock).result = pass.result :=
  (run_does pass).result_eq clock

/-- Signaling under a root, or under the one the environment names, is the pass there. -/
theorem signalProcesses_does (pass : Pass) (environment : Environment) (root : Option Text)
    (rooted : root.getD (recordsRoot environment) = pass.source.root) :
    (signalProcesses pass.host environment pass.target pass.signal root pass.ignoreVanished).Does
      pass.deeds pass.result := by
  have created : (Source.create environment root).Does [] (.ok pass.source) := by
    unfold Source.create
    rw [rooted]
    exact (Run.does_pure pass.source).after_log
  have ran : (pass.source.signalByName pass.host pass.target pass.signal pass.ignoreVanished).Does
      pass.deeds pass.result := run_does pass
  unfold signalProcesses
  exact created.after_quiet ran

private theorem consulted_delivers_nothing (source : Source) (host : Host) (pid : Int) :
    (source.consulted host pid).filterMap Event.delivery? = [] := by
  unfold Source.consulted
  cases source.recordedName host pid with
  | error failure => rfl
  | ok name =>
    simp only
    split <;> rfl

private theorem deedsAt_deliveries (pass : Pass) (pid : Int) :
    (pass.deedsAt pid).filterMap Event.delivery? =
      if pass.goesPast pid && pass.isMatch pid then [(pid, pass.signal)] else [] := by
  rw [deedsAt, List.filterMap_append, consulted_delivers_nothing, Bool.and_comm]
  split <;> rfl

private theorem deedsAt_reads (pass : Pass) (pid : Int) :
    (pass.deedsAt pid).filterMap Event.read? =
      (pass.source.consulted pass.host pid).filterMap Event.read? := by
  rw [deedsAt, List.filterMap_append]
  split <;> simp [Event.read?]

/-- Of the processes reached only matches that are passed are delivered to. -/
private theorem reached_deliveries (pass : Pass) (pids : List Int) :
    ((pass.reached pids).flatMap pass.deedsAt).filterMap Event.delivery? =
      (pass.signaled pids).map fun pid => (pid, pass.signal) := by
  induction pids with
  | nil => rfl
  | cons pid rest ih =>
    rw [reached_cons, signaled_cons, List.flatMap_cons, List.filterMap_append, deedsAt_deliveries]
    by_cases past : pass.goesPast pid = true
    · by_cases matched : pass.isMatch pid = true <;> simp [past, matched, ih]
    · simp [past]

theorem run_deliveries (pass : Pass) (clock : Clock) :
    (pass.run clock).deliveries = pass.deliveries := by
  rw [Outcome.deliveries_eq_deeds, (run_does pass).deeds_eq clock, deeds, deliveries]
  cases pass.source.roll pass.host with
  | error failure => rfl
  | ok pids => exact reached_deliveries pass pids

/-- Delivered to are the matches that the pass gets past. -/
theorem mem_deliveries_iff {clock : Clock} {pid : Int} :
    (pid, pass.signal) ∈ (pass.run clock).deliveries ↔
      (∃ pids, pass.source.roll pass.host = .ok pids ∧ pid ∈ pass.passed pids) ∧
        pass.isMatch pid = true := by
  rw [run_deliveries, deliveries]
  cases pass.source.roll pass.host with
  | error failure => simp
  | ok pids => simp [signaled]

theorem run_reads (pass : Pass) (clock : Clock) :
    (pass.run clock).reads = pass.lookups.filterMap Event.read? := by
  have same : ∀ pids : List Int, (pids.flatMap pass.deedsAt).filterMap Event.read? =
      (pids.flatMap (pass.source.consulted pass.host)).filterMap Event.read? := by
    intro pids
    simp only [List.filterMap_flatMap, deedsAt_reads]
  rw [Outcome.reads_eq_deeds, (run_does pass).deeds_eq clock, deeds, lookups,
    List.filterMap_cons, List.filterMap_cons]
  cases pass.source.roll pass.host with
  | error failure => rfl
  | ok pids => rw [same]

section Split

variable {before after : List Int} {pid : Int} {stop : Stop}

private theorem all_past (clear : ∀ earlier ∈ before, pass.stopAt earlier = none) :
    ∀ earlier ∈ before, pass.goesPast earlier = true := by
  intro earlier member
  exact goesPast_of_none (clear earlier member)

theorem passed_of_clear (clear : ∀ earlier ∈ before, pass.stopAt earlier = none) :
    pass.passed before = before := by
  have whole := @List.takeWhile_append_of_pos _ pass.goesPast before [] (all_past clear)
  simpa [passed] using whole

theorem passed_of_split (clear : ∀ earlier ∈ before, pass.stopAt earlier = none)
    (stops : pass.stopAt pid = some stop) : pass.passed (before ++ pid :: after) = before := by
  rw [passed, List.takeWhile_append_of_pos (all_past clear)]
  simp [goesPast_of_stop stops]

theorem reached_of_split (clear : ∀ earlier ∈ before, pass.stopAt earlier = none)
    (stops : pass.stopAt pid = some stop) :
    pass.reached (before ++ pid :: after) = before ++ [pid] := by
  rw [reached, passed_of_split clear stops, List.dropWhile_append_of_pos (all_past clear)]
  simp [goesPast_of_stop stops]

theorem reached_of_clear (clear : ∀ earlier ∈ before, pass.stopAt earlier = none) :
    pass.reached before = before := by
  have rest := @List.dropWhile_append_of_pos _ pass.goesPast before [] (all_past clear)
  rw [List.append_nil] at rest
  rw [reached, passed_of_clear clear, rest]
  exact List.append_nil before

theorem ending_of_clear (clear : ∀ earlier ∈ before, pass.stopAt earlier = none) :
    pass.ending before = .ok (before.filter pass.isMatch) := by
  have none_stops : before.findSome? pass.stopAt = none := List.findSome?_eq_none_iff.mpr clear
  simp only [ending, none_stops]

theorem ending_of_split (clear : ∀ earlier ∈ before, pass.stopAt earlier = none)
    (stops : pass.stopAt pid = some stop) :
    pass.ending (before ++ pid :: after) = .error stop.failure := by
  have none_stops : before.findSome? pass.stopAt = none := List.findSome?_eq_none_iff.mpr clear
  simp [ending, List.findSome?_append, none_stops, stops]

/-- Processes are gone over to the end exactly if the pass ends at none of them. -/
theorem ending_ok_iff {pids signaled : List Int} :
    pass.ending pids = .ok signaled ↔
      (∀ pid ∈ pids, pass.stopAt pid = none) ∧ signaled = pids.filter pass.isMatch := by
  constructor
  · intro whole
    have clear : ∀ pid ∈ pids, pass.stopAt pid = none := by
      rw [← List.findSome?_eq_none_iff]
      cases stopped : pids.findSome? pass.stopAt with
      | none => rfl
      | some stop => simp [ending, stopped] at whole
    rw [ending_of_clear clear] at whole
    cases whole
    exact ⟨clear, rfl⟩
  · rintro ⟨clear, rfl⟩
    exact ending_of_clear clear

/-- Processes are gone over to the end, or up to the first at which the pass ends. -/
theorem clear_or_split (pass : Pass) (pids : List Int) :
    (∀ pid ∈ pids, pass.stopAt pid = none) ∨
      ∃ before pid after stop, pids = before ++ pid :: after ∧
        (∀ earlier ∈ before, pass.stopAt earlier = none) ∧ pass.stopAt pid = some stop := by
  induction pids with
  | nil => exact .inl (by simp)
  | cons first rest ih =>
    cases here : pass.stopAt first with
    | some stop => exact .inr ⟨[], first, rest, stop, rfl, by simp, here⟩
    | none =>
      obtain clear | ⟨before, pid, after, stop, rfl, clear, stops⟩ := ih
      · exact .inl (List.forall_mem_cons.mpr ⟨here, clear⟩)
      · exact .inr ⟨first :: before, pid, after, stop, rfl,
          List.forall_mem_cons.mpr ⟨here, clear⟩, stops⟩

end Split

/-- A pass agrees with its reference. Without a list of processes it fails as the
listing did and delivers nothing. If it ends at none of them, it signals exactly
the matches in listing order. Otherwise the first process at which it ends
decides: its failure is that of the pass, the matches before it are signaled, and
nothing behind it is looked up or signaled. -/
theorem pass_agrees_with_reference (pass : Pass) (clock : Clock) :
    (∀ failure, pass.source.roll pass.host = .error failure →
      (pass.run clock).result = .error failure ∧ (pass.run clock).deliveries = []) ∧
    (∀ pids, pass.source.roll pass.host = .ok pids → (∀ pid ∈ pids, pass.stopAt pid = none) →
      (pass.run clock).result = .ok (pids.filter pass.isMatch) ∧
      (pass.run clock).deliveries =
        (pids.filter pass.isMatch).map fun pid => (pid, pass.signal)) ∧
    (∀ before pid after stop, pass.source.roll pass.host = .ok (before ++ pid :: after) →
      (∀ earlier ∈ before, pass.stopAt earlier = none) → pass.stopAt pid = some stop →
      (pass.run clock).result = .error stop.failure ∧
      (pass.run clock).deliveries =
        ((before.filter pass.isMatch).map fun earlier => (earlier, pass.signal)) ∧
      (pass.run clock).reads = (Event.listed pass.source.root ::
        (before ++ [pid]).flatMap (pass.source.consulted pass.host)).filterMap Event.read?) := by
  rw [run_result, run_deliveries, run_reads]
  refine ⟨?_, ?_, ?_⟩
  · intro failure unlisted
    simp [result, deliveries, unlisted]
  · intro pids listed clear
    simp [result, deliveries, signaled, listed, passed_of_clear clear, ending_of_clear clear]
  · intro before pid after stop listed clear stops
    simp only [result, deliveries, lookups, signaled, listed, passed_of_split clear stops,
      reached_of_split clear stops, ending_of_split clear stops, and_self]

/-- A host where one listed process has gone, one takes signals, one takes none
and one comes too late. -/
def crowdedHost : Host where
  listing path := if path == "/p" then .ok ["5", "self", "12", "7", "9"] else .error .notFound
  content path :=
    if path == "/p/5/status" then .unopenable .notFound
    else .bytes [0x4E, 0x61, 0x6D, 0x65, 0x3A, 0x09, 0x77, 0x0A]
  fault pid := if pid == 7 then some .denied else none

/-- On such a host only the one in front of the refusal is signaled. -/
theorem crowded_pass_agrees :
    let pass : Pass := ⟨crowdedHost, ⟨"/p"⟩, "w", 15, true⟩
    (∀ earlier ∈ [5, 12], pass.stopAt earlier = none) ∧
    pass.stopAt 7 = some (.undelivered 7 15 .denied) ∧
    (pass.run ⟨[]⟩).result = .error (DeliveryFault.denied.failure 7 15) ∧
    (pass.run ⟨[]⟩).deliveries = [(12, 15)] ∧
    (pass.run ⟨[]⟩).reads =
      ["list /p", "open /p/5/status", "open /p/12/status", "open /p/7/status"].map Text.ofString := by
  intro pass
  have listed : pass.source.roll pass.host = .ok ([5, 12] ++ 7 :: [9]) := by cbv
  have clear : ∀ earlier ∈ [5, 12], pass.stopAt earlier = none := by decide +kernel
  have stops : pass.stopAt 7 = some (.undelivered 7 15 .denied) := by decide +kernel
  obtain ⟨ended, delivered, looked⟩ :=
    (pass_agrees_with_reference pass ⟨[]⟩).2.2 [5, 12] 7 [9] _ listed clear stops
  refine ⟨clear, stops, ended, delivered.trans ?_, looked.trans ?_⟩
  · decide +kernel
  · decide +kernel

end Pass
end NamedSignal.Proc
