import Mathlib.Control.Monad.Basic
import NamedSignal.Proofs.LookupTrace
import NamedSignal.Proofs.RecordFields
import NamedSignal.Proofs.VanishedProcesses

/-!
The evidence a pass goes by. Of a status record only the last `Name` counts, of the
arguments only the first, and of those only where the name fills its room. Hosts
that agree on this evidence, on the listing of the root and on how they take
signals are treated alike, whatever else their records hold and whatever the
environment is.
-/
namespace NamedSignal.Proc

namespace Source

variable {source : Source} {host other : Host} {pid : Int}

theorem recordedName_eq (source : Source) (host : Host) (pid : Int) :
    source.recordedName host pid =
      ((host.bytes (source.placeOf pid "status")).map Status.nameIn).map (·.getD []) := by
  rw [recordedName, recordPath_eq_placeOf source pid (by decide)]
  cases host.bytes (source.placeOf pid "status") with
  | error failure => rfl
  | ok content => exact congrArg Except.ok (Status.parse_name content)

/-- The name that the first argument of a process recovers from a recorded one. -/
theorem recovered_eq (source : Source) (host : Host) (pid : Int) (name : Text) :
    (match host.bytes (source.recordPath pid "cmdline") with
      | .ok content => .ok (recoverName name (Arguments.parse content))
      | .error failure => .error failure) =
      ((host.bytes (source.placeOf pid "cmdline")).map Arguments.firstIn).map
        fun first => recoverName name first.toList := by
  rw [recordPath_eq_placeOf source pid (by decide)]
  cases host.bytes (source.placeOf pid "cmdline") with
  | error failure => rfl
  | ok content =>
    refine congrArg Except.ok ?_
    rw [recoverName_head?, Arguments.parse_head?]

/-- The process is on the roll. -/
def Lists (source : Source) (host : Host) (pid : Int) : Prop :=
  ∃ pids, source.roll host = .ok pids ∧ pid ∈ pids

/-- The hosts give the same evidence. They list the same entries and take signals
alike. For each process listed either neither status record can be read, for the same
reason, or both give the same name; and where that name has 15 bytes or more, either
neither argument record can be read, for the same reason, or both begin with the same
argument. -/
structure Alike (source : Source) (host other : Host) : Prop where
  listing : other.listing source.root = host.listing source.root
  fault : other.fault = host.fault
  status : ∀ pid, source.Lists host pid →
    (other.bytes (source.placeOf pid "status")).map Status.nameIn =
      (host.bytes (source.placeOf pid "status")).map Status.nameIn
  arguments : ∀ pid name, source.Lists host pid →
    (host.bytes (source.placeOf pid "status")).map Status.nameIn = .ok (some name) →
    15 ≤ (Utf8.encode name).length →
    (other.bytes (source.placeOf pid "cmdline")).map Arguments.firstIn =
      (host.bytes (source.placeOf pid "cmdline")).map Arguments.firstIn

/-- Hosts that give the same evidence for a process open the same records for its name. -/
theorem Alike.consulted_eq (alike : source.Alike host other) (listed : source.Lists host pid) :
    source.consulted other pid = source.consulted host pid := by
  unfold consulted
  rw [recordedName_eq, recordedName_eq, alike.status pid listed]

theorem Alike.nameOf_eq (alike : source.Alike host other) (listed : source.Lists host pid) :
    source.nameOf other pid = source.nameOf host pid := by
  have recorded : source.recordedName other pid = source.recordedName host pid := by
    rw [recordedName_eq, recordedName_eq, alike.status pid listed]
  unfold nameOf
  rw [recorded, recordedName_eq]
  cases given : (host.bytes (source.placeOf pid "status")).map Status.nameIn with
  | error failure => rfl
  | ok found =>
    cases found with
    -- Without a name the empty one is recorded, and that is never cut.
    | none => rfl
    | some name =>
      simp only [Except.map, Option.getD_some]
      split
      · rename_i cut
        have same := alike.arguments pid name listed given (of_decide_eq_true cut)
        exact (recovered_eq source other pid name).trans
          ((congrArg (Except.map _) same).trans (recovered_eq source host pid name).symm)
      · rfl

end Source

namespace Pass

variable {pass : Pass} {other : Host}

theorem roll_on (alike : pass.source.Alike pass.host other) :
    pass.source.roll other = pass.source.roll pass.host := by
  unfold Source.roll
  rw [alike.listing]

/-- On hosts that give the same evidence a pass ends alike and does the same. -/
theorem on_alike (alike : pass.source.Alike pass.host other) :
    (pass.on other).result = pass.result ∧ (pass.on other).deeds = pass.deeds := by
  have rolled : (pass.on other).source.roll (pass.on other).host =
      pass.source.roll pass.host := roll_on alike
  unfold result deeds
  rw [rolled]
  cases listed : pass.source.roll pass.host with
  | error failure => exact ⟨rfl, rfl⟩
  | ok pids =>
    -- There is evidence on listed processes only, and no others are reached.
    have onRoll : ∀ pid ∈ pass.reached pids, pass.source.Lists pass.host pid := by
      intro pid reaches
      exact ⟨pids, listed, reached_subset pass pids reaches⟩
    have agree : ∀ pid ∈ pass.reached pids, (pass.on other).stopAt pid = pass.stopAt pid ∧
        (pass.on other).isMatch pid = pass.isMatch pid := by
      intro pid reaches
      have named := alike.nameOf_eq (onRoll pid reaches)
      exact ⟨stopAt_on named (congrFun alike.fault pid), isMatch_on named⟩
    obtain ⟨ends, -, reaches⟩ := over_reached agree
    refine ⟨ends, ?_⟩
    simp only [reaches]
    refine congrArg (_ :: ·) ?_
    rw [List.flatMap_def, List.flatMap_def]
    refine congrArg List.flatten (List.map_congr_left fun pid reaches => ?_)
    obtain ⟨stops, matched⟩ := agree pid reaches
    have records : (pass.on other).source.consulted (pass.on other).host pid =
        pass.source.consulted pass.host pid := alike.consulted_eq (onRoll pid reaches)
    simp only [deedsAt, goesPast, records, stops, matched]
    rfl

end Pass

/-- Signaling under a given root is settled by the evidence. On two hosts that give the
same it returns the same processes or fails for the same reason, delivers to the same
and reads the same records, whatever the two environments and clocks are. -/
theorem evidence_settles_pass (source : Source) {host other : Host}
    (alike : source.Alike host other) (environment elsewhere : Environment) (target : Text)
    (signal : Int) (ignoreVanished : Bool) (clock later : Clock) :
    let here := signalProcesses host environment target signal (some source.root) ignoreVanished
      clock
    let there := signalProcesses other elsewhere target signal (some source.root) ignoreVanished
      later
    there.result = here.result ∧ there.deliveries = here.deliveries ∧
      there.reads = here.reads := by
  intro here there
  let pass : Pass := ⟨host, source, target, signal, ignoreVanished⟩
  have alikeForPass : pass.source.Alike pass.host other := alike
  obtain ⟨result, deeds⟩ := Pass.on_alike alikeForPass
  obtain ⟨didHere, endedHere⟩ :=
    Pass.signalProcesses_does pass environment (some source.root) rfl clock
  obtain ⟨didThere, endedThere⟩ :=
    Pass.signalProcesses_does (pass.on other) elsewhere (some source.root) rfl later
  have same : there.deeds = here.deeds := didThere.trans (deeds.trans didHere.symm)
  refine ⟨endedThere.trans (result.trans endedHere.symm), ?_, ?_⟩
  · rw [Outcome.deliveries_eq_deeds, Outcome.deliveries_eq_deeds, same]
  · rw [Outcome.reads_eq_deeds, Outcome.reads_eq_deeds, same]

/-- A host with a long name that its arguments recover, and a short one. -/
def tidyHost : Host where
  listing path := if path == "/p" then .ok ["5", "12"] else .error .notFound
  content path :=
    if path == "/p/5/status" then .bytes (Utf8.encode "Name:\tnotifier-daemon\n")
    else if path == "/p/5/cmdline" then .bytes (Utf8.encode "/bin/notifier-daemon-2\u0000")
    else if path == "/p/12/status" then .bytes (Utf8.encode "Name:\tw\n")
    else .unopenable .notFound
  fault _ := none

/-- The same evidence among other lines, later arguments, unused records and
processes that are not listed. -/
def noisyHost : Host where
  listing path := if path == "/p" then .ok ["5", "12"] else .ok ["99"]
  content path :=
    if path == "/p/5/status" then
      .bytes (Utf8.encode "Name:\tdecoy\nState:\tS\nName:\t notifier-daemon\t\nUid:\t0\t0")
    else if path == "/p/5/cmdline" then
      .bytes (Utf8.encode "/bin/notifier-daemon-2\u0000--key=secret\u0000\u0000")
    else if path == "/p/12/status" then .bytes (Utf8.encode "Pid:\t12\nName:\tw\nw")
    else if path == "/p/12/cmdline" then .unreadable .inputOutput
    else .bytes (Utf8.encode "Name:\tnotifier-daemon-2\n")
  fault _ := none

/-- Noise around the evidence changes nothing. -/
theorem noise_changes_nothing :
    let source : Source := ⟨"/p"⟩
    let outcome (host : Host) (environment : Environment) := signalProcesses host environment
      "notifier-daemon-2" 15 (some source.root) false ⟨[]⟩
    source.Alike tidyHost noisyHost ∧
    (outcome noisyHost fun _ => some "/elsewhere").result = (outcome tidyHost fun _ => none).result ∧
    (outcome noisyHost fun _ => some "/elsewhere").deliveries =
      (outcome tidyHost fun _ => none).deliveries ∧
    (outcome tidyHost fun _ => none).deliveries = [(5, 15)] := by
  intro source outcome
  have rolled : source.roll tidyHost = .ok [5, 12] := by cbv
  have listed : ∀ pid, source.Lists tidyHost pid → pid = 5 ∨ pid = 12 := by
    rintro pid ⟨pids, again, member⟩
    cases rolled.symm.trans again
    simpa using member
  have alike : source.Alike tidyHost noisyHost := by
    refine ⟨rfl, rfl, ?_, ?_⟩
    · intro pid present
      rcases listed pid present with rfl | rfl
      · decide +kernel
      · decide +kernel
    · intro pid name present named long
      rcases listed pid present with rfl | rfl
      · decide +kernel
      · have short : (tidyHost.bytes (source.placeOf 12 "status")).map Status.nameIn =
            .ok (some "w") := by decide +kernel
        cases short.symm.trans named
        exact absurd long (by decide +kernel)
  obtain ⟨result, deliveries, -⟩ := evidence_settles_pass source alike (fun _ => none)
    (fun _ => some "/elsewhere") "notifier-daemon-2" 15 false ⟨[]⟩ ⟨[]⟩
  exact ⟨alike, result, deliveries, by decide +kernel⟩

end NamedSignal.Proc
