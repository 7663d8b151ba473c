import NamedSignal.Proofs.ChosenNames
import NamedSignal.Proofs.PassReference

/-!
Processes whose name is empty. A process without a recorded name has none, and one whose
name was recorded can lose it: if that name may have been cut, the first argument takes
its place, and where the arguments begin with a NUL that argument is empty. A pass with
the empty target signals just these two kinds of processes.
-/
namespace NamedSignal.Proc

namespace Arguments

variable {content : List UInt8}

/-- The first argument is empty exactly if the record begins with a NUL. -/
theorem head?_pieces_eq_nil_iff : (pieces content).head? = some [] ↔ content.head? = some 0 := by
  cases content with
  | nil => simp [pieces]
  | cons byte rest =>
    rw [head?_pieces (List.cons_ne_nil byte rest), List.head?_cons, Option.some.injEq,
      Option.some.injEq, List.takeWhile_eq_nil_iff]
    simp

end Arguments

/-- Of a recorded name nothing is left exactly if the first argument is empty. -/
theorem Chosen.eq_nil_iff {name : List UInt8} {arguments : List (List UInt8)} {found : Text}
    (given : name ≠ []) (chosen : Chosen name arguments found) :
    found = [] ↔ arguments.head? = some [] := by
  have some_name : Utf8.decode name ≠ [] := mt Utf8.decode_eq_nil_iff.mp given
  constructor
  · intro lost
    cases chosen with
    | recorded => exact absurd lost some_name
    | component leads begins =>
      rw [lost] at begins
      exact absurd (List.prefix_nil.mp begins) some_name
    | argument =>
      rw [Utf8.decode_eq_nil_iff.mp lost]
      rfl
  · exact chosen.of_empty

namespace Source

variable {source : Source} {host : Host} {pid : Int} {record content : List UInt8}

/-- The status record of the process gives it no name, or an empty one. -/
def Unnamed (source : Source) (host : Host) (pid : Int) : Prop :=
  ∃ record, host.bytes (source.recordPath pid "status") = .ok record ∧
    (RawStatus.parse record).name = []

/-- The name in the status record may have been cut, and the arguments begin with a NUL. -/
def LosesName (source : Source) (host : Host) (pid : Int) : Prop :=
  ∃ record content, host.bytes (source.recordPath pid "status") = .ok record ∧
    15 ≤ (RawStatus.parse record).name.length ∧
    host.bytes (source.recordPath pid "cmdline") = .ok content ∧ content.head? = some 0

private theorem unnamed_iff (status : host.bytes (source.recordPath pid "status") = .ok record) :
    source.Unnamed host pid ↔ (RawStatus.parse record).name = [] := by
  simp [Unnamed, status]

private theorem losesName_iff (status : host.bytes (source.recordPath pid "status") = .ok record) :
    source.LosesName host pid ↔ 15 ≤ (RawStatus.parse record).name.length ∧
      ∃ content, host.bytes (source.recordPath pid "cmdline") = .ok content ∧
        content.head? = some 0 := by
  simp [LosesName, status]

/-- A process has the empty name exactly if it is unnamed or loses its name. -/
theorem nameOf_nil_iff :
    source.nameOf host pid = .ok [] ↔ source.Unnamed host pid ∨ source.LosesName host pid := by
  cases status : host.bytes (source.recordPath pid "status") with
  | error failure => simp [nameOf, recordedName, Unnamed, LosesName, status]
  | ok record =>
    rw [unnamed_iff status, losesName_iff status]
    have recorded := recordedName_read status
    by_cases long : 15 ≤ (RawStatus.parse record).name.length
    · have named : (RawStatus.parse record).name ≠ [] := List.ne_nil_of_length_pos (by omega)
      rw [nameOf_long recorded long, or_iff_right named, and_iff_right long]
      cases host.bytes (source.recordPath pid "cmdline") with
      | error failure => simp [Except.map]
      | ok content =>
        have chosen := Chosen.recoverName long (Arguments.pieces content)
        simp only [Except.map, Except.ok.injEq, Arguments.parse, chosen.eq_nil_iff named,
          Arguments.head?_pieces_eq_nil_iff, exists_eq_left']
    · rw [nameOf_short recorded (Nat.not_le.mp long), Except.ok.injEq, Utf8.decode_eq_nil_iff,
        or_iff_left fun both => long both.1]

/-- Where both records can be read there is a name. -/
theorem nameOf_of_records (status : host.bytes (source.recordPath pid "status") = .ok record)
    (given : host.bytes (source.recordPath pid "cmdline") = .ok content) :
    ∃ found, source.nameOf host pid = .ok found := by
  have recorded := recordedName_read status
  by_cases long : 15 ≤ (RawStatus.parse record).name.length
  · rw [nameOf_long recorded long, given]
    exact ⟨_, rfl⟩
  · exact ⟨_, nameOf_short recorded (Nat.not_le.mp long)⟩

/-- Where both records of a process can be read it has a name. A recorded name comes out
empty exactly if it has 15 bytes or more and the arguments begin with a NUL. So a pass
with the empty target signals, of the processes it gets past, just those that have no
recorded name and those that lose theirs in this way. -/
theorem name_lost_iff (source : Source) (host : Host) (pid : Int) :
    (∀ record content, host.bytes (source.recordPath pid "status") = .ok record →
      (RawStatus.parse record).name ≠ [] →
      host.bytes (source.recordPath pid "cmdline") = .ok content →
      ∃ found, source.Resolves host pid found ∧
        (found = [] ↔ 15 ≤ (RawStatus.parse record).name.length ∧ content.head? = some 0)) ∧
    ∀ (signal : Int) (ignoreVanished : Bool) (clock : Clock),
      let pass : Pass := ⟨host, source, [], signal, ignoreVanished⟩
      (pid, signal) ∈ (pass.run clock).deliveries ↔
        (∃ pids, source.roll host = .ok pids ∧ pid ∈ pass.passed pids) ∧
          (source.Unnamed host pid ∨ source.LosesName host pid) := by
  constructor
  · intro record content status named given
    obtain ⟨found, here⟩ := nameOf_of_records status given
    have lost : source.nameOf host pid = .ok [] ↔
        source.Unnamed host pid ∨ source.LosesName host pid := nameOf_nil_iff
    rw [here, Except.ok.injEq, unnamed_iff status, losesName_iff status, or_iff_right named] at lost
    refine ⟨found, resolves_iff.mpr here, lost.trans (and_congr_right fun _ => ?_)⟩
    simp [given]
  · intro signal ignoreVanished clock pass
    rw [← nameOf_nil_iff]
    exact Pass.mem_deliveries_iff.trans (and_congr_right' Pass.isMatch_iff)

/-- A long name survives a first argument that is not empty, and a pass with the empty
target leaves its process alone. -/
theorem named_process_left_alone :
    let record := Utf8.encode "Name:\taverylongproces\n"
    let host := recordedHost record (Utf8.encode "x\u0000")
    let pass : Pass := ⟨host, ⟨"/p"⟩, [], 15, false⟩
    (∃ found, Resolves ⟨"/p"⟩ host 12 found ∧ found ≠ []) ∧
      (12, 15) ∉ (pass.run ⟨[]⟩).deliveries := by
  intro record host pass
  obtain ⟨status, given⟩ := recordedHost_bytes record (Utf8.encode "x\u0000")
  have first : (Utf8.encode "x\u0000").head? ≠ some 0 := by decide +kernel
  have recorded : (RawStatus.parse record).name ≠ [] := by decide +kernel
  obtain ⟨named, signaled⟩ := name_lost_iff ⟨"/p"⟩ host 12
  obtain ⟨found, resolves, lost⟩ := named record _ status recorded given
  refine ⟨⟨found, resolves, fun nothing => first (lost.mp nothing).2⟩, fun delivered => ?_⟩
  obtain ⟨-, nameless | loses⟩ := (signaled 15 false ⟨[]⟩).mp delivered
  · exact recorded ((unnamed_iff status).mp nameless)
  · obtain ⟨-, content, again, begins⟩ := (losesName_iff status).mp loses
    rw [given, Except.ok.injEq] at again
    exact first (again ▸ begins)

/-- The arguments are a NUL, and nothing is left of a long name: the pass with the empty
target signals a process that has one. So not every recorded name comes out. -/
theorem nul_arguments_lose_name :
    let record := Utf8.encode "Name:\taverylongproces\n"
    let host := recordedHost record [0]
    let pass : Pass := ⟨host, ⟨"/p"⟩, [], 15, false⟩
    ((RawStatus.parse record).name = Utf8.encode "averylongproces" ∧
      Resolves ⟨"/p"⟩ host 12 [] ∧ (pass.run ⟨[]⟩).deliveries = [(12, 15)]) ∧
    ¬ ∀ (source : Source) (host : Host) (pid : Int) (record content : List UInt8),
      host.bytes (source.recordPath pid "status") = .ok record →
      (RawStatus.parse record).name ≠ [] →
      host.bytes (source.recordPath pid "cmdline") = .ok content →
      ∃ found, source.Resolves host pid found ∧ found ≠ [] := by
  intro record host pass
  obtain ⟨status, given⟩ := recordedHost_bytes record [0]
  have named : (RawStatus.parse record).name = Utf8.encode "averylongproces" := by decide +kernel
  have long : 15 ≤ (RawStatus.parse record).name.length := by decide +kernel
  have lost : nameOf ⟨"/p"⟩ host 12 = .ok [] :=
    nameOf_nil_iff.mpr (.inr ⟨record, [0], status, long, given, rfl⟩)
  refine ⟨⟨named, resolves_iff.mpr lost, ?_⟩, ?_⟩
  · rw [Pass.run_deliveries]
    decide +kernel
  · intro all
    obtain ⟨found, resolves, kept⟩ :=
      all _ host 12 record [0] status (List.ne_nil_of_length_pos (by omega)) given
    rw [resolves_iff, lost, Except.ok.injEq] at resolves
    exact kept resolves.symm

end Source
end NamedSignal.Proc
