import NamedSignal.Proofs.Roll

/-!
The order of a listing. A pass that goes over all processes asks of each entry
only what holds of it wherever it stands, so another order changes neither that
the pass is whole nor whom it signals. The order does decide how far a pass gets
that ends early, and at which process.
-/
namespace NamedSignal

/-- The hosts differ in the order of the entries of one directory only. -/
structure Host.Reordered (path : Text) (host other : Host) : Prop where
  here : ∃ entries shuffled, host.listing path = .ok entries ∧
    other.listing path = .ok shuffled ∧ entries.Perm shuffled
  elsewhere : ∀ place, place ≠ path → other.listing place = host.listing place
  content : other.content = host.content
  fault : other.fault = host.fault

theorem Host.Reordered.symm {path : Text} {host other : Host}
    (reordered : Host.Reordered path host other) : Host.Reordered path other host where
  here := by
    obtain ⟨entries, shuffled, listed, listedToo, same⟩ := reordered.here
    exact ⟨shuffled, entries, listedToo, listed, same.symm⟩
  elsewhere place away := (reordered.elsewhere place away).symm
  content := reordered.content.symm
  fault := reordered.fault.symm

namespace Proc

/-- Names are told by what is behind paths, not by listings. -/
theorem Source.nameOf_of_content {source : Source} {host other : Host}
    (same : other.content = host.content) : source.nameOf other = source.nameOf host := by
  have bytes : other.bytes = host.bytes := by
    funext path
    unfold Host.bytes
    rw [same]
  funext pid
  unfold nameOf recordedName
  rw [bytes]

namespace Pass

variable {pass : Pass}

/-- A pass is whole exactly if the root can be listed, all its entries can be read,
and the pass ends at none of the processes they name. -/
theorem result_ok_iff {signaled : List Int} :
    pass.result = .ok signaled ↔
      ∃ entries, pass.host.listing pass.source.root = .ok entries ∧
        (∀ entry ∈ entries, isOverlong entry = false) ∧
        (∀ entry ∈ entries, ∀ pid, named? entry = some pid → pass.stopAt pid = none) ∧
        signaled = (entries.filterMap named?).filter pass.isMatch := by
  have named : ∀ entries : List Text, (∀ pid ∈ entries.filterMap named?, pass.stopAt pid = none) ↔
      ∀ entry ∈ entries, ∀ pid, named? entry = some pid → pass.stopAt pid = none := by
    intro entries
    constructor
    · intro clear entry member pid names
      exact clear pid (List.mem_filterMap.mpr ⟨entry, member, names⟩)
    · intro clear pid member
      obtain ⟨entry, within, names⟩ := List.mem_filterMap.mp member
      exact clear entry within pid names
  unfold result Source.roll
  cases pass.host.listing pass.source.root with
  | error errno => simp
  | ok entries =>
    simp only [Except.ok.injEq, exists_eq_left']
    rw [← named entries]
    cases given : Source.pids entries with
    | error failure =>
      simp only [reduceCtorEq, false_iff, not_and]
      intro readable
      rw [Source.pids_ok_iff.mpr ⟨readable, rfl⟩] at given
      cases given
    | ok pids =>
      obtain ⟨readable, rfl⟩ := Source.pids_ok_iff.mp given
      simp only [ending_ok_iff]
      exact ⟨fun ended => ⟨readable, ended⟩, And.right⟩

/-- A whole pass delivers to all that it returns. -/
theorem deliveries_of_whole {signaled : List Int} (whole : pass.result = .ok signaled) :
    pass.deliveries = signaled.map fun pid => (pid, pass.signal) := by
  unfold result at whole
  unfold deliveries
  cases rolled : pass.source.roll pass.host with
  | error failure =>
    rw [rolled] at whole
    cases whole
  | ok pids =>
    rw [rolled] at whole
    obtain ⟨clear, rfl⟩ := ending_ok_iff.mp whole
    simp only [Pass.signaled, passed_of_clear clear]

section Reordered

variable {other : Host} (reordered : Host.Reordered pass.source.root pass.host other)

include reordered

private theorem name_reordered (pid : Int) :
    pass.source.nameOf other pid = pass.source.nameOf pass.host pid :=
  congrFun (Source.nameOf_of_content reordered.content) pid

/-- In another order a whole pass is whole again and signals the same processes. -/
theorem whole_reordered {signaled : List Int} (whole : pass.result = .ok signaled) :
    ∃ shuffled, (pass.on other).result = .ok shuffled ∧ signaled.Perm shuffled := by
  obtain ⟨entries, shuffled, listed, listedToo, same⟩ := reordered.here
  obtain ⟨_, again, readable, clear, rfl⟩ := result_ok_iff.mp whole
  cases listed.symm.trans again
  refine ⟨_, result_ok_iff.mpr ⟨shuffled, listedToo, ?_, ?_, rfl⟩, ?_⟩
  · intro entry member
    exact readable entry (same.mem_iff.mpr member)
  · intro entry member pid names
    rw [stopAt_on (name_reordered reordered pid) (congrFun reordered.fault pid)]
    exact clear entry (same.mem_iff.mpr member) pid names
  · have matched : (pass.on other).isMatch = pass.isMatch :=
      funext fun pid => isMatch_on (name_reordered reordered pid)
    rw [matched]
    exact (same.filterMap named?).filter pass.isMatch

end Reordered

/-- Passes over the same entries in two orders are both whole or both fail. If they
are whole they return the same processes and deliver to the same, each in its own
order. -/
theorem order_immaterial (pass : Pass) {other : Host}
    (reordered : Host.Reordered pass.source.root pass.host other) (clock later : Clock) :
    (∃ signaled shuffled, (pass.run clock).result = .ok signaled ∧
      ((pass.on other).run later).result = .ok shuffled ∧ signaled.Perm shuffled ∧
      (pass.run clock).deliveries.Perm ((pass.on other).run later).deliveries) ∨
    ∃ failure otherFailure, (pass.run clock).result = .error failure ∧
      ((pass.on other).run later).result = .error otherFailure := by
  simp only [run_result, run_deliveries]
  cases ended : pass.result with
  | ok signaled =>
    obtain ⟨shuffled, whole, same⟩ := whole_reordered reordered ended
    refine .inl ⟨signaled, shuffled, rfl, whole, same, ?_⟩
    rw [deliveries_of_whole ended, deliveries_of_whole whole]
    exact same.map _
  | error failure =>
    cases endedToo : (pass.on other).result with
    | error otherFailure => exact .inr ⟨failure, otherFailure, rfl, rfl⟩
    | ok shuffled =>
      -- Turned round, the whole pass on the other host would make this one whole.
      obtain ⟨signaled, whole, -⟩ :=
        @whole_reordered (pass.on other) pass.host reordered.symm shuffled endedToo
      have back : (pass.on other).on pass.host = pass := rfl
      rw [back, ended] at whole
      cases whole

/-- Two matches and a process that has gone, listed in two orders. -/
theorem shuffled_listing_signals_same :
    let pass : Pass := ⟨{ crowdedHost with listing := fun _ => .ok ["12", "5", "9"] }, ⟨"/p"⟩,
      "w", 15, true⟩
    let other : Host := { crowdedHost with
      listing := fun path => .ok (if path == "/p" then ["9", "12", "5"] else ["12", "5", "9"]) }
    Host.Reordered pass.source.root pass.host other ∧
    (pass.run ⟨[]⟩).deliveries.Perm ((pass.on other).run ⟨[]⟩).deliveries ∧
    (pass.run ⟨[]⟩).deliveries = [(12, 15), (9, 15)] ∧
    ((pass.on other).run ⟨[]⟩).deliveries = [(9, 15), (12, 15)] := by
  intro pass other
  have reordered : Host.Reordered pass.source.root pass.host other := by
    refine ⟨⟨["12", "5", "9"], ["9", "12", "5"], rfl, rfl, by decide⟩, ?_, rfl, rfl⟩
    intro place away
    have differs : (place == Text.ofString "/p") = false := beq_eq_false_iff_ne.mpr away
    simp only [other, pass, differs]
    rfl
  have whole : (pass.run ⟨[]⟩).result = .ok [12, 9] := by
    rw [run_result]
    decide +kernel
  obtain ⟨_, _, -, -, -, same⟩ | ⟨_, _, failed, -⟩ := order_immaterial pass reordered ⟨[]⟩ ⟨[]⟩
  · refine ⟨reordered, same, ?_, ?_⟩
    · rw [run_deliveries]
      decide +kernel
    · rw [run_deliveries]
      decide +kernel
  · rw [whole] at failed
    cases failed

end Pass
end Proc
end NamedSignal
