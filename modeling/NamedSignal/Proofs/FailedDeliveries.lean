import NamedSignal.Proofs.PassReference

/-!
What a failed delivery tells. A delivery that fails leaves nothing behind, and it ends
with a failure that names the process, the signal and the cause, unless the host refused
it for reasons of its own: then the failure is the host's and names nobody. A pass that
ends in a delivery ends at the first match that cannot be delivered to, and what it tells
is what that delivery does.
-/
namespace NamedSignal

namespace DeliveryFault

/-- The error number of a failed delivery: the one for a process that is gone, the one for
a process that is not to be touched, the host's own, or that of an input-output error. -/
def errno : DeliveryFault → Errno
  | gone | zombie => .noSuchProcess
  | denied => .notPermitted
  | refused errno => errno
  | unspecified | timeout _ | unacceptable => .inputOutput

/-- The failure is told of this delivery: it has its process, its signal and its error
number, and the fault for its cause. -/
def IsToldBy (fault : DeliveryFault) (failure : Failure) (pid signal : Int) : Prop :=
  ∃ reason, failure = .undelivered pid signal fault.errno reason (some fault)

/-- The host refused with an error number of its own, or did not take the signal for a
number. -/
def isBare : DeliveryFault → Bool
  | refused _ | unacceptable => true
  | gone | zombie | denied | unspecified | timeout _ => false

variable {fault : DeliveryFault} {pid signal : Int}

/-- All failures are told of their delivery but the bare refusals of the host. -/
theorem isToldBy_failure_iff :
    fault.IsToldBy (fault.failure pid signal) pid signal ↔ fault.isBare = false := by
  cases fault with
  | gone | zombie | denied | unspecified | timeout seconds => exact iff_of_true ⟨_, rfl⟩ rfl
  | refused errno | unacceptable =>
    refine iff_of_false ?_ Bool.noConfusion
    rintro ⟨reason, told⟩
    cases told

/-- A bare refusal is the same for each process and each signal. -/
theorem failure_of_bare (bare : fault.isBare = true) (other otherSignal : Int) :
    fault.failure other otherSignal = fault.failure pid signal := by
  cases fault with
  | gone | zombie | denied | unspecified | timeout seconds => cases bare
  | refused errno | unacceptable => rfl

end DeliveryFault

namespace Proc

/-- A delivery that fails leaves nothing behind. -/
theorem send_of_fault {host : Host} {pid signal : Int} {fault : DeliveryFault}
    (faulty : host.fault pid = some fault) (clock : Clock) :
    send host pid signal clock = ⟨[], clock, .error (fault.failure pid signal)⟩ := by
  unfold send
  rw [faulty]
  rfl

namespace Pass

variable {pass : Pass} {pid signal : Int} {fault : DeliveryFault}

/-- A pass ends in the delivery to a process if that is a match which has a fault. -/
theorem fault_of_stopAt {here : Int}
    (stops : pass.stopAt here = some (.undelivered pid signal fault)) :
    here = pid ∧ signal = pass.signal ∧ pass.isMatch pid = true ∧
      pass.host.fault pid = some fault := by
  obtain ⟨failure, -, told⟩ | ⟨found, matched, faulty, told⟩ := stopAt_cases stops
  · cases told
  · cases told
    exact ⟨rfl, rfl, matched, faulty⟩

/-- The process in whose delivery a pass ends is the first match with a fault. -/
theorem first_of_stop (stopped : pass.stop? = some (.undelivered pid signal fault)) :
    ∃ before after, pass.source.roll pass.host = .ok (before ++ pid :: after) ∧
      (∀ earlier ∈ before, pass.stopAt earlier = none) ∧
      pass.stopAt pid = some (.undelivered pid signal fault) := by
  unfold stop? at stopped
  cases rolled : pass.source.roll pass.host with
  | error failure =>
    rw [rolled] at stopped
    cases stopped
  | ok pids =>
    simp only [rolled] at stopped
    obtain clear | ⟨before, here, after, stop, rfl, clear, stops⟩ := clear_or_split pass pids
    · rw [List.findSome?_eq_none_iff.mpr clear] at stopped
      cases stopped
    · have first : (before ++ here :: after).findSome? pass.stopAt = some stop := by
        rw [List.findSome?_append, List.findSome?_eq_none_iff.mpr clear, Option.none_or,
          List.findSome?_cons, stops]
      rw [first, Option.some.injEq] at stopped
      subst stopped
      obtain ⟨rfl, -, -, -⟩ := fault_of_stopAt stops
      exact ⟨before, after, rfl, clear, stops⟩

end Pass

/-- A delivery that fails delivers nothing, and its failure has the process, the signal,
the error number and the cause exactly if it is no bare refusal of the host; that would be
the same for any other delivery. A pass that ends in a delivery ends at the first match
which has a fault, the matches before it are signaled, and it fails as that delivery
does. -/
theorem failed_delivery_told_iff (fault : DeliveryFault) (pid signal : Int) (clock : Clock) :
    (∀ host : Host, host.fault pid = some fault →
      ∃ failure, (send host pid signal clock).result = .error failure ∧
        (send host pid signal clock).deliveries = [] ∧
        (fault.IsToldBy failure pid signal ↔ fault.isBare = false) ∧
        (fault.isBare = true → ∀ other otherSignal, fault.failure other otherSignal = failure)) ∧
    ∀ pass : Pass, pass.stop? = some (.undelivered pid signal fault) →
      ∃ before after failure, pass.source.roll pass.host = .ok (before ++ pid :: after) ∧
        (pass.isMatch pid = true ∧ pass.host.fault pid = some fault) ∧
        (∀ earlier ∈ before, pass.isMatch earlier = true → pass.host.fault earlier = none) ∧
        (pass.run clock).result = .error failure ∧
        (pass.run clock).deliveries =
          ((before.filter pass.isMatch).map fun earlier => (earlier, signal)) ∧
        (fault.IsToldBy failure pid signal ↔ fault.isBare = false) := by
  constructor
  · intro host faulty
    rw [send_of_fault faulty]
    exact ⟨_, rfl, rfl, DeliveryFault.isToldBy_failure_iff, DeliveryFault.failure_of_bare⟩
  · intro pass stopped
    obtain ⟨before, after, rolled, clear, stops⟩ := Pass.first_of_stop stopped
    obtain ⟨-, rfl, matched, faulty⟩ := Pass.fault_of_stopAt stops
    refine ⟨before, after, fault.failure pid pass.signal, rolled, ⟨matched, faulty⟩, ?_, ?_, ?_,
      DeliveryFault.isToldBy_failure_iff⟩
    · exact fun earlier member => Pass.fault_of_past (clear earlier member)
    · rw [Pass.run_result, Pass.result_of_stop stopped]
      rfl
    · rw [Pass.run_deliveries]
      simp only [Pass.deliveries, Pass.signaled, rolled, Pass.passed_of_split clear stops]

/-- A pass that ends at a process which is not to be touched tells of just that. -/
theorem denied_delivery_told :
    let pass : Pass := ⟨Pass.crowdedHost, ⟨"/p"⟩, "w", 15, true⟩
    pass.stop? = some (.undelivered 7 15 .denied) ∧
    ∃ failure, (pass.run ⟨[]⟩).result = .error failure ∧
      DeliveryFault.denied.IsToldBy failure 7 15 := by
  intro pass
  have stopped : pass.stop? = some (.undelivered 7 15 .denied) := by decide +kernel
  obtain ⟨before, after, failure, -, -, -, failed, -, told⟩ :=
    (failed_delivery_told_iff .denied 7 15 ⟨[]⟩).2 pass stopped
  exact ⟨stopped, failure, failed, told.mpr rfl⟩

/-- What the host itself refuses names nobody, and neither does a signal that it does not
take for a number, so not every failed delivery is told of. -/
theorem refused_delivery_untold :
    let refusing (fault : DeliveryFault) : Host :=
      { Pass.crowdedHost with fault := fun _ => some fault }
    ((send (refusing (.refused ⟨22⟩)) 12 15 ⟨[]⟩).result = .error (.host ⟨22⟩ none) ∧
      (send (refusing .unacceptable) 12 15 ⟨[]⟩).result = .error .unacceptable) ∧
    ¬ ∀ (host : Host) (pid signal : Int) (fault : DeliveryFault) (clock : Clock),
      host.fault pid = some fault →
      ∃ failure, (send host pid signal clock).result = .error failure ∧
        fault.IsToldBy failure pid signal := by
  intro refusing
  refine ⟨⟨rfl, rfl⟩, fun all => ?_⟩
  obtain ⟨failure, failed, told⟩ := all (refusing (.refused ⟨22⟩)) 12 15 (.refused ⟨22⟩) ⟨[]⟩ rfl
  obtain ⟨reason, rfl⟩ := told
  cases failed

end Proc
end NamedSignal
