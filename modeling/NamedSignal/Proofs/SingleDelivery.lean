import NamedSignal.Proofs.Roll

/-!
How often a pass signals one process. The roll takes every entry at its word, so
a process is on it as often as entries name it. Entries that differ name the same
process only if they differ in leading zeros; where none do, no process is
signaled twice.
-/
namespace NamedSignal.Proc

/-- Two entries of the root name the process; they differ in leading zeros alone. -/
def Source.Respelled (source : Source) (host : Host) (pid : Int) : Prop :=
  ∃ entries, host.listing source.root = .ok entries ∧
    ∃ first ∈ entries, ∃ second ∈ entries, first ≠ second ∧
      isNumeral first = true ∧ isNumeral second = true ∧ significant first = significant second ∧
      named? first = some pid ∧ named? second = some pid

/-- Of two different entries that name one process both are numerals, the same
behind leading zeros. -/
theorem respelled_of_named {source : Source} {host : Host} {entries : List Text} {pid : Int}
    {first second : Text} (listed : host.listing source.root = .ok entries)
    (here : first ∈ entries) (there : second ∈ entries) (differ : first ≠ second)
    (firstNamed : named? first = some pid) (secondNamed : named? second = some pid) :
    source.Respelled host pid := by
  have same : significant first = significant second :=
    (significant_of_named firstNamed).trans (significant_of_named secondNamed).symm
  exact ⟨entries, listed, first, here, second, there, differ, (numeral_of_named firstNamed).1,
    (numeral_of_named secondNamed).1, same, firstNamed, secondNamed⟩

/-- A process that is on the roll twice is respelled. -/
theorem respelled_of_count {source : Source} {host : Host} {pids : List Int} {pid : Int}
    (distinct : ∀ entries, host.listing source.root = .ok entries → entries.Nodup)
    (rolled : source.roll host = .ok pids) (twice : 1 < pids.count pid) :
    source.Respelled host pid := by
  unfold Source.roll at rolled
  cases listed : host.listing source.root with
  | error errno =>
    rw [listed] at rolled
    cases rolled
  | ok entries =>
    rw [listed] at rolled
    obtain ⟨-, rfl⟩ := Source.pids_ok_iff.mp rolled
    -- The process is counted once for each entry that names it, and these are different.
    rw [List.count_filterMap, List.countP_eq_length_filter] at twice
    have once := (distinct entries listed).filter fun entry => named? entry == some pid
    match naming : entries.filter (fun entry => named? entry == some pid) with
    | [] => simp [naming] at twice
    | [_] => simp [naming] at twice
    | first :: second :: others =>
      have firstIn : first ∈ entries.filter (fun entry => named? entry == some pid) := by
        simp [naming]
      have secondIn : second ∈ entries.filter (fun entry => named? entry == some pid) := by
        simp [naming]
      have differ : first ≠ second := by
        rw [naming] at once
        exact fun same => (List.nodup_cons.mp once).1 (same ▸ List.mem_cons_self)
      obtain ⟨here, firstNamed⟩ := List.mem_filter.mp firstIn
      obtain ⟨there, secondNamed⟩ := List.mem_filter.mp secondIn
      exact respelled_of_named listed here there differ (beq_iff_eq.mp firstNamed)
        (beq_iff_eq.mp secondNamed)

/-- A roll on which no process is respelled holds different processes. -/
theorem nodup_of_plain {source : Source} {host : Host} {pids : List Int}
    (distinct : ∀ entries, host.listing source.root = .ok entries → entries.Nodup)
    (rolled : source.roll host = .ok pids) (plain : ∀ pid, ¬ source.Respelled host pid) :
    pids.Nodup := by
  refine List.nodup_iff_count_le_one.mpr fun pid => Nat.le_of_not_lt fun twice => ?_
  exact plain pid (respelled_of_count distinct rolled twice)

namespace Pass

variable {pass : Pass}

/-- A pass signals processes on the roll, each at most as often as it is there. -/
theorem signaled_sublist (pass : Pass) (pids : List Int) : (pass.signaled pids).Sublist pids :=
  List.filter_sublist.trans (List.takeWhile_sublist _)

theorem deliveries_of_roll {pids : List Int} (rolled : pass.source.roll pass.host = .ok pids) :
    pass.deliveries.map Prod.fst = pass.signaled pids := by
  simp only [deliveries, rolled, List.map_map]
  exact List.map_id _

theorem returned_sublist {pids signaled : List Int}
    (rolled : pass.source.roll pass.host = .ok pids) (whole : pass.result = .ok signaled) :
    signaled.Sublist pids := by
  simp only [result, rolled] at whole
  obtain ⟨-, rfl⟩ := ending_ok_iff.mp whole
  exact List.filter_sublist

/-- A process that is delivered to twice is respelled in the listing. Without such
processes all that are delivered to, and all that are returned, are different. -/
theorem signaled_once_unless_respelled (pass : Pass) (clock : Clock)
    (distinct : ∀ entries, pass.host.listing pass.source.root = .ok entries → entries.Nodup) :
    (∀ pid, 1 < ((pass.run clock).deliveries.map Prod.fst).count pid →
      pass.source.Respelled pass.host pid) ∧
    ((∀ pid, ¬ pass.source.Respelled pass.host pid) →
      ((pass.run clock).deliveries.map Prod.fst).Nodup ∧
      ∀ signaled, (pass.run clock).result = .ok signaled → signaled.Nodup) := by
  rw [run_deliveries, run_result]
  cases rolled : pass.source.roll pass.host with
  | error failure =>
    simp [deliveries, result, rolled]
  | ok pids =>
    rw [deliveries_of_roll rolled]
    have within := signaled_sublist pass pids
    refine ⟨fun pid twice => ?_, fun plain => ?_⟩
    · exact respelled_of_count distinct rolled (twice.trans_le (within.count_le pid))
    · have different := nodup_of_plain distinct rolled plain
      refine ⟨within.nodup different, fun signaled whole => ?_⟩
      exact (returned_sublist rolled whole).nodup different

/-- A host whose processes all take signals and are all called `w`. -/
def uniformHost (entries : List Text) : Host where
  listing path := if path == "/p" then .ok entries else .error .notFound
  content _ := .bytes [0x4E, 0x61, 0x6D, 0x65, 0x3A, 0x09, 0x77, 0x0A]
  fault _ := none

/-- Different entries without leading zeros are signaled once each. -/
theorem plain_entries_signaled_once :
    let pass : Pass := ⟨uniformHost ["7", "self", "70"], ⟨"/p"⟩, "w", 15, false⟩
    (∀ entries, pass.host.listing pass.source.root = .ok entries → entries.Nodup) ∧
    (∀ pid, ¬ pass.source.Respelled pass.host pid) ∧
    ((pass.run ⟨[]⟩).deliveries.map Prod.fst).Nodup ∧
    (pass.run ⟨[]⟩).deliveries = [(7, 15), (70, 15)] := by
  intro pass
  have listed : pass.host.listing pass.source.root = .ok ["7", "self", "70"] := by cbv
  have distinct : ∀ entries, pass.host.listing pass.source.root = .ok entries →
      entries.Nodup := by
    intro entries again
    cases listed.symm.trans again
    decide +kernel
  have plain : ∀ pid, ¬ pass.source.Respelled pass.host pid := by
    rintro pid ⟨entries, again, first, here, second, there, differ, -, -, same, -⟩
    cases listed.symm.trans again
    have alone : ∀ first ∈ (["7", "self", "70"] : List Text),
        ∀ second ∈ (["7", "self", "70"] : List Text),
          significant first = significant second → first = second := by decide +kernel
    exact differ (alone first here second there same)
  refine ⟨distinct, plain, ((signaled_once_unless_respelled pass ⟨[]⟩ distinct).2 plain).1, ?_⟩
  rw [run_deliveries]
  decide +kernel

/-- A process that two entries spell is signaled twice, though the entries differ. -/
theorem padded_entry_signaled_again :
    let pass : Pass := ⟨uniformHost ["7", "007"], ⟨"/p"⟩, "w", 15, false⟩
    pass.host.listing pass.source.root = .ok ["7", "007"] ∧
    (pass.run ⟨[]⟩).deliveries = [(7, 15), (7, 15)] ∧
    ¬ ∀ (pass : Pass) (clock : Clock),
      (∀ entries, pass.host.listing pass.source.root = .ok entries → entries.Nodup) →
      ((pass.run clock).deliveries.map Prod.fst).Nodup := by
  intro pass
  have listed : pass.host.listing pass.source.root = .ok ["7", "007"] := by cbv
  have delivered : (pass.run ⟨[]⟩).deliveries = [(7, 15), (7, 15)] := by
    rw [run_deliveries]
    decide +kernel
  refine ⟨listed, delivered, fun once => ?_⟩
  have distinct : ∀ entries, pass.host.listing pass.source.root = .ok entries →
      entries.Nodup := by
    intro entries again
    cases listed.symm.trans again
    decide +kernel
  have different := once pass ⟨[]⟩ distinct
  rw [delivered] at different
  revert different
  decide

end Pass
end NamedSignal.Proc
