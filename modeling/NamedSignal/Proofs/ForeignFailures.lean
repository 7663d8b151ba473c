import NamedSignal.Proofs.PassReference

/-!
The failures of a pass that are not the host's. Whatever the host refuses to
list, to open, to read or to deliver is a host error. Two things are not: an
entry of the root with more digits than a numeral may have, and a match to which
the signal cannot be delivered because the host does not take it as a number.
-/
namespace NamedSignal.Proc

/-- A directory entry made of so many ASCII digits that it is no numeral. -/
def isOverlong (entry : Text) : Bool :=
  entry.all (fun s => s.code < 0x80 && s.decimal?.isSome) && Numeral.maxDigits < entry.length

/-- An entry cannot be read exactly if it is overlong. -/
theorem pid?_error_iff (entry : Text) (failure : Failure) :
    pid? entry = .error failure ↔ isOverlong entry = true ∧ failure = .numeralTooLong := by
  unfold pid? isOverlong
  cases digits : entry.all (fun s => s.code < 0x80 && s.decimal?.isSome) with
  | false => simp
  | true =>
    have values : (entry.mapM Symbol.decimal?).isSome = true := by
      refine mapM_isSome_iff.mpr fun symbol member => ?_
      have digit := List.all_eq_true.mp digits symbol member
      exact (Bool.and_eq_true_iff.mp digit).2
    obtain ⟨value, evaluated⟩ := Option.isSome_iff_exists.mp values
    cases entry with
    | nil => simp
    | cons first rest =>
      by_cases long : Numeral.maxDigits < (first :: rest).length
      · have none_read : Numeral.decimal? (first :: rest) = none := by
          rw [Numeral.decimal?, if_pos (by simpa using long)]
        simp only [none_read, decide_eq_true long]
        simp [eq_comm]
      · have one_read : Numeral.decimal? (first :: rest) = some (Numeral.value 10 value) := by
          rw [Numeral.decimal?, if_neg (by simpa using long), evaluated]
          rfl
        simp only [one_read, decide_eq_false long]
        simp

/-- A list of entries cannot be read exactly if one of them cannot. -/
theorem pids_error_iff (entries : List Text) (failure : Failure) :
    Source.pids entries = .error failure ↔
      (∃ entry ∈ entries, isOverlong entry = true) ∧ failure = .numeralTooLong := by
  induction entries with
  | nil => simp [Source.pids]
  | cons entry rest ih =>
    cases read : pid? entry with
    | error reason =>
      obtain ⟨long, rfl⟩ := (pid?_error_iff entry reason).mp read
      have ends : Source.pids (entry :: rest) = .error .numeralTooLong := by
        simp only [Source.pids, read, bind, Except.bind]
      simp only [ends, Except.error.injEq, List.mem_cons, exists_eq_or_imp, long, true_or,
        true_and]
      exact eq_comm
    | ok found =>
      have short : isOverlong entry = false := by
        cases long : isOverlong entry with
        | false => rfl
        | true =>
          rw [(pid?_error_iff entry .numeralTooLong).mpr ⟨long, rfl⟩] at read
          cases read
      have behind : Source.pids (entry :: rest) = .error failure ↔
          Source.pids rest = .error failure := by
        simp only [Source.pids, read]
        cases Source.pids rest <;> simp [bind, Except.bind, pure, Except.pure]
      rw [behind, ih]
      simp [short]

namespace Source

variable {source : Source} {host : Host}

/-- The processes cannot be told for another reason than the host's exactly if
an entry is overlong. -/
theorem roll_foreign_iff : (∃ failure, source.roll host = .error failure ∧
      failure.isHostError = false) ↔
    ∃ entries, host.listing source.root = .ok entries ∧
      ∃ entry ∈ entries, isOverlong entry = true := by
  unfold roll
  cases host.listing source.root with
  | error errno =>
    simp [Failure.isHostError]
  | ok entries =>
    simp only [pids_error_iff, Except.ok.injEq, exists_eq_left']
    constructor
    · rintro ⟨failure, ⟨long, -⟩, -⟩
      exact long
    · intro long
      exact ⟨.numeralTooLong, ⟨long, rfl⟩, rfl⟩

theorem bytes_hostError {path : Text} {failure : Failure}
    (failed : host.bytes path = .error failure) : failure.isHostError = true := by
  unfold Host.bytes at failed
  cases content : host.content path <;> simp only [content] at failed <;> cases failed <;> rfl

/-- A name cannot be told for the host's reasons only. -/
theorem nameOf_hostError {pid : Int} {failure : Failure}
    (unnamed : source.nameOf host pid = .error failure) : failure.isHostError = true := by
  unfold nameOf recordedName at unnamed
  cases recorded : host.bytes (source.recordPath pid "status") with
  | error reason =>
    simp only [recorded, Except.error.injEq] at unnamed
    exact unnamed ▸ bytes_hostError recorded
  | ok content =>
    simp only [recorded] at unnamed
    split at unnamed
    · cases given : host.bytes (source.recordPath pid "cmdline") with
      | error reason =>
        simp only [given, Except.error.injEq] at unnamed
        exact unnamed ▸ bytes_hostError given
      | ok arguments => simp [given] at unnamed
    · cases unnamed

end Source

/-- Of the ways a delivery fails only one is not the host's. -/
theorem fault_foreign_iff {pid signal : Int} {fault : DeliveryFault} :
    (fault.failure pid signal).isHostError = false ↔ fault = .unacceptable := by
  cases fault <;> simp [DeliveryFault.failure, Failure.isHostError]

namespace Pass

variable {pass : Pass}

theorem stopAt_foreign {pid : Int} {stop : Stop} (stops : pass.stopAt pid = some stop)
    (foreign : stop.failure.isHostError = false) :
    stop = .undelivered pid pass.signal .unacceptable := by
  obtain ⟨failure, unnamed, rfl⟩ | ⟨fault, -, -, rfl⟩ := stopAt_cases stops
  · have refused := Source.nameOf_hostError unnamed
    simp only [Stop.failure, refused] at foreign
    cases foreign
  · rw [fault_foreign_iff.mp foreign]

/-- A pass that ends early fails as the stop says, and any other succeeds. -/
theorem result_error_iff {failure : Failure} :
    pass.result = .error failure ↔ ∃ stop, pass.stop? = some stop ∧ stop.failure = failure := by
  cases stopped : pass.stop? with
  | some stop => simp [result_of_stop stopped]
  | none =>
    unfold stop? at stopped
    unfold result
    cases rolled : pass.source.roll pass.host with
    | error reason => simp [rolled] at stopped
    | ok pids =>
      simp only [rolled] at stopped
      simp [ending, stopped]

/-- A pass fails for another reason than the host's exactly if an entry of the
root is overlong or the first process at which it ends is a match that does not
take the signal for a number. -/
theorem foreign_failure_iff : (∃ failure, pass.result = .error failure ∧
      failure.isHostError = false) ↔
    (∃ entries, pass.host.listing pass.source.root = .ok entries ∧
      ∃ entry ∈ entries, isOverlong entry = true) ∨
    ∃ pid, pass.stop? = some (.undelivered pid pass.signal .unacceptable) := by
  rw [← Source.roll_foreign_iff]
  constructor
  · rintro ⟨failure, failed, foreign⟩
    obtain ⟨stop, stopped, rfl⟩ := result_error_iff.mp failed
    unfold stop? at stopped
    cases rolled : pass.source.roll pass.host with
    | error reason =>
      simp only [rolled, Option.some.injEq] at stopped
      subst stopped
      exact .inl ⟨reason, rfl, foreign⟩
    | ok pids =>
      simp only [rolled] at stopped
      obtain ⟨pid, -, stops⟩ := List.exists_of_findSome?_eq_some stopped
      have same := stopAt_foreign stops foreign
      refine .inr ⟨pid, ?_⟩
      simp only [stop?, rolled, stopped, same]
  · rintro (⟨failure, unlisted, foreign⟩ | ⟨pid, stopped⟩)
    · exact ⟨failure, by simp only [result, unlisted], foreign⟩
    · exact ⟨_, result_of_stop stopped, rfl⟩

end Pass
end NamedSignal.Proc
