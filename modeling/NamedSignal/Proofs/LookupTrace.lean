import NamedSignal.Proofs.PassReference
import NamedSignal.Proofs.RecordPaths

/-!
What a pass reads, path by path. It lists the root once. For every process it
comes to, the one at which it ends included, it opens the status record, and then
the arguments exactly if the name in the status record fills the room it has.
-/
namespace NamedSignal.Proc

namespace Source

/-- The openings for the name of a process, by what is behind its two paths: one of
the status record, and one of the arguments exactly if the status record is read
and the name in it has 15 bytes or more. -/
def openings (source : Source) (host : Host) (pid : Int) : List Text :=
  Text.concat ["open ", source.placeOf pid "status"] ::
    match host.content (source.placeOf pid "status") with
    | .bytes content =>
      if 15 ≤ (Utf8.encode (Status.parse content).name).length then
        [Text.concat ["open ", source.placeOf pid "cmdline"]]
      else []
    | .unopenable _ | .unreadable _ => []

theorem consulted_reads (source : Source) (host : Host) (pid : Int) :
    (source.consulted host pid).filterMap Event.read? = source.openings host pid := by
  unfold consulted openings recordedName Host.bytes
  rw [recordPath_eq_placeOf source pid (by decide), recordPath_eq_placeOf source pid (by decide)]
  cases host.content (source.placeOf pid "status") with
  | unopenable errno => rfl
  | unreadable errno => rfl
  | bytes content =>
    by_cases long : 15 ≤ (Utf8.encode (Status.parse content).name).length
    · have cut : mayBeCut (Status.parse content).name = true := decide_eq_true long
      simp only [cut, long, ↓reduceIte]
      rfl
    · have whole : mayBeCut (Status.parse content).name = false := decide_eq_false long
      simp only [whole, long, Bool.false_eq_true, ↓reduceIte]
      rfl

/-- No record of a process is opened twice for its name. -/
theorem openings_nodup (source : Source) (host : Host) (pid : Int) :
    (source.openings host pid).Nodup := by
  have differ : Text.concat ["open ", source.placeOf pid "status"] ≠
      Text.concat ["open ", source.placeOf pid "cmdline"] := by
    intro same
    have places : source.placeOf pid "status" = source.placeOf pid "cmdline" := by
      simpa [Text.concat] using same
    exact absurd (placeOf_inj (by decide) places).2 (by decide)
  unfold openings
  split
  · split <;> simp [differ]
  · simp
  · simp

end Source

namespace Pass

/-- How a pass ends that looks at some processes and leaves others unseen. Either it
ends at none and there are no others, or it ends at the last it looks at and at none
before. -/
inductive EndsAfter (pass : Pass) : List Int → List Int → Except Failure (List Int) → Prop where
  | whole {looked : List Int} (clear : ∀ pid ∈ looked, pass.stopAt pid = none) :
      EndsAfter pass looked [] (.ok (looked.filter pass.isMatch))
  | early {before unseen : List Int} {pid : Int} {stop : Stop}
      (clear : ∀ earlier ∈ before, pass.stopAt earlier = none)
      (stops : pass.stopAt pid = some stop) :
      EndsAfter pass (before ++ [pid]) unseen (.error stop.failure)

/-- The processes that are reached are the first ones, up to where the pass ends. -/
theorem reached_endsAfter (pass : Pass) (pids : List Int) :
    ∃ unseen, pids = pass.reached pids ++ unseen ∧
      pass.EndsAfter (pass.reached pids) unseen (pass.ending pids) := by
  obtain clear | ⟨before, pid, after, stop, rfl, clear, stops⟩ := clear_or_split pass pids
  · rw [reached_of_clear clear, ending_of_clear clear]
    exact ⟨[], (List.append_nil pids).symm, .whole clear⟩
  · rw [reached_of_split clear stops, ending_of_split clear stops]
    exact ⟨after, by simp, .early clear stops⟩

/-- Only processes on the roll are reached. -/
theorem reached_subset (pass : Pass) (pids : List Int) : pass.reached pids ⊆ pids := by
  obtain ⟨unseen, split, -⟩ := reached_endsAfter pass pids
  exact fun pid reaches => split ▸ List.mem_append_left unseen reaches

/-- A pass lists the root once, and reads nothing else if no roll comes of that.
Otherwise it opens records of the processes on the roll in order, of each those that
its name takes, up to and including the process at which it ends. -/
theorem reads_exact (pass : Pass) (clock : Clock) :
    (∀ failure, pass.source.roll pass.host = .error failure →
      (pass.run clock).reads = [Text.concat ["list ", pass.source.root]]) ∧
    ∀ pids, pass.source.roll pass.host = .ok pids →
      ∃ looked unseen, pids = looked ++ unseen ∧
        pass.EndsAfter looked unseen (pass.run clock).result ∧
        (pass.run clock).reads = Text.concat ["list ", pass.source.root] ::
          looked.flatMap (pass.source.openings pass.host) ∧
        ∀ pid ∈ looked, (pass.source.openings pass.host pid).Nodup := by
  rw [run_reads, run_result]
  constructor
  · intro failure unlisted
    simp only [lookups, unlisted]
    rfl
  · intro pids rolled
    obtain ⟨unseen, split, ended⟩ := reached_endsAfter pass pids
    have result : pass.result = pass.ending pids := by simp only [result, rolled]
    refine ⟨pass.reached pids, unseen, split, result ▸ ended, ?_, ?_⟩
    · simp only [lookups, rolled, List.filterMap_cons, Event.read?, List.filterMap_flatMap,
        Source.consulted_reads]
    · intro pid _
      exact Source.openings_nodup _ _ pid

/-- A host with a long name, a process that has gone, one that takes no signal and
one that is never looked at. -/
def mixedHost : Host where
  listing path := if path == "/p" then .ok ["5", "12", "7", "9"] else .error .notFound
  content path :=
    if path == "/p/5/status" then .bytes (Utf8.encode "Name:\t notifier-daemon \n")
    else if path == "/p/5/cmdline" then .bytes (Utf8.encode "w")
    else if path == "/p/12/status" then .unopenable .notFound
    else .bytes (Utf8.encode "Name:\tw\n")
  fault pid := if pid == 7 then some .denied else none

/-- Only the long name takes a second opening, and the refusal is the last look. -/
theorem mixed_pass_reads :
    let pass : Pass := ⟨mixedHost, ⟨"/p"⟩, "w", 15, true⟩
    pass.source.roll pass.host = .ok [5, 12, 7, 9] ∧
    (∃ looked unseen, [5, 12, 7, 9] = looked ++ unseen ∧
      pass.EndsAfter looked unseen (pass.run ⟨[]⟩).result ∧
      (pass.run ⟨[]⟩).reads = Text.concat ["list ", pass.source.root] ::
        looked.flatMap (pass.source.openings pass.host) ∧
      ∀ pid ∈ looked, (pass.source.openings pass.host pid).Nodup) ∧
    (pass.run ⟨[]⟩).reads = ["list /p", "open /p/5/status", "open /p/5/cmdline",
      "open /p/12/status", "open /p/7/status"].map Text.ofString := by
  intro pass
  have rolled : pass.source.roll pass.host = .ok [5, 12, 7, 9] := by cbv
  refine ⟨rolled, (reads_exact pass ⟨[]⟩).2 _ rolled, ?_⟩
  rw [run_reads]
  decide +kernel

end Pass
end NamedSignal.Proc
