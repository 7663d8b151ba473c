import NamedSignal.Proofs.Roll

/-!
Which entries of a listing are processes. An entry is one if it is plain digits and
their number is one that a process can have. Enumerating gives a handle for each of
these, in the order of the listing, and for no other entry, and it fails only where the
root cannot be listed. There is one exception to all of this: digits that are too many
to be read end the enumeration, whatever their number is and whatever else is listed.
-/
namespace NamedSignal.Proc

/-- The handle that an entry calls for: one of the number that its plain digits stand
for, with no name yet, if a process can have that number. -/
def handle? (entry : Text) : Option Handle :=
  if isNumeral entry = true ∧ numberOf entry ≤ 2 ^ 31 - 1 then some { pid := numberOf entry }
  else none

/-- The processes under a root are enumerated as they are listed. -/
structure EnumeratesAsListed (host : Host) (source : Source) (clock : Clock) : Prop where
  listed : ∀ entries, host.listing source.root = .ok entries →
    (source.enumerate host clock).result = .ok (entries.filterMap handle?)
  unlisted : ∀ errno, host.listing source.root = .error errno →
    (source.enumerate host clock).result = .error (.host errno (some source.root))

/-- The entries of a listed root can all be read: none has more plain digits than a
numeral may have. -/
def Legible (host : Host) (source : Source) : Prop :=
  ∀ entries, host.listing source.root = .ok entries →
    ∀ entry ∈ entries, isNumeral entry = true → entry.length ≤ Numeral.maxDigits

/-- An entry that can be read names the process of its handle. -/
theorem handle?_of_short {entry : Text} (short : isOverlong entry = false) :
    handle? entry = (named? entry).map fun pid => { pid } := by
  cases numeral : isNumeral entry with
  | false => simp [handle?, numeral, named?, pid?_of_other numeral]
  | true =>
    have within : ¬ Numeral.maxDigits < entry.length := by
      intro long
      rw [isOverlong_iff.mpr ⟨numeral, long⟩] at short
      cases short
    rw [handle?, named?, pid?_of_numeral numeral, if_neg within]
    by_cases fits : numberOf entry ≤ maxPid
    · have small : numberOf entry ≤ 2 ^ 31 - 1 := fits
      rw [if_pos ⟨numeral, small⟩, if_pos fits]
      rfl
    · have large : ¬ numberOf entry ≤ 2 ^ 31 - 1 := fits
      rw [if_neg fun both => large both.2, if_neg fits]
      rfl

theorem handles_of_short {entries : List Text}
    (short : ∀ entry ∈ entries, isOverlong entry = false) :
    (entries.filterMap named?).map (fun pid => ({ pid } : Handle)) =
      entries.filterMap handle? := by
  rw [List.map_filterMap]
  exact List.filterMap_congr fun entry member => (handle?_of_short (short entry member)).symm

section Result

variable {host : Host} {source : Source} {entries : List Text} {errno : Errno}
variable (clock : Clock)

theorem enumerate_unlisted (unlisted : host.listing source.root = .error errno) :
    (source.enumerate host clock).result = .error (.host errno (some source.root)) := by
  rw [(source.enumerate_does host).result_eq, Source.roll, unlisted]
  rfl

theorem enumerate_listed (listed : host.listing source.root = .ok entries)
    (short : ∀ entry ∈ entries, isOverlong entry = false) :
    (source.enumerate host clock).result = .ok (entries.filterMap handle?) := by
  have read : Source.pids entries = .ok (entries.filterMap named?) :=
    Source.pids_ok_iff.mpr ⟨short, rfl⟩
  rw [(source.enumerate_does host).result_eq, Source.roll, listed]
  simp only [read, Except.map]
  rw [handles_of_short short]

/-- One entry that cannot be read is enough to lose all. -/
theorem enumerate_overlong (listed : host.listing source.root = .ok entries)
    {entry : Text} (member : entry ∈ entries) (long : isOverlong entry = true) :
    (source.enumerate host clock).result = .error .numeralTooLong := by
  have unread : Source.pids entries = .error .numeralTooLong :=
    (pids_error_iff entries _).mpr ⟨⟨entry, member, long⟩, rfl⟩
  rw [(source.enumerate_does host).result_eq, Source.roll, listed]
  simp only [unread]
  rfl

/-- The processes are enumerated as they are listed exactly if all entries can be read,
and otherwise the enumeration fails because a numeral is too long. -/
theorem enumerates_as_listed_iff (host : Host) (source : Source) (clock : Clock) :
    (EnumeratesAsListed host source clock ↔ Legible host source) ∧
      (¬ Legible host source →
        (source.enumerate host clock).result = .error .numeralTooLong) := by
  have illegible : ¬ Legible host source →
      (source.enumerate host clock).result = .error .numeralTooLong := by
    intro illegible
    unfold Legible at illegible
    push Not at illegible
    obtain ⟨entries, listed, entry, member, numeral, long⟩ := illegible
    exact enumerate_overlong clock listed member (isOverlong_iff.mpr ⟨numeral, long⟩)
  refine ⟨⟨fun exact => ?_, fun legible => ?_⟩, illegible⟩
  · by_contra wrong
    cases listing : host.listing source.root with
    | error errno => exact wrong fun entries listed => by rw [listing] at listed; cases listed
    | ok entries =>
      have given := exact.listed entries listing
      rw [illegible wrong] at given
      cases given
  · constructor
    · intro entries listed
      refine enumerate_listed clock listed fun entry member => ?_
      refine Bool.eq_false_iff.mpr fun overlong => ?_
      obtain ⟨numeral, long⟩ := isOverlong_iff.mp overlong
      exact absurd (legible entries listed entry member numeral) (Nat.not_le.mpr long)
    · intro errno unlisted
      exact enumerate_unlisted clock unlisted

end Result

/-- A host of one directory. -/
def listedHost (entries : List Text) : Host where
  listing path := if path == "/p" then .ok entries else .error .notFound
  content _ := .unopenable .notFound
  fault _ := none

/-- Behind a one that is repeated too often the process 7 is not found. -/
theorem long_entry_hides_process :
    let host := listedHost ["7", List.replicate 4301 (.char '1')]
    (Source.enumerate host ⟨"/p"⟩ ⟨[]⟩).result = .error .numeralTooLong ∧
      ¬ EnumeratesAsListed host ⟨"/p"⟩ ⟨[]⟩ := by
  intro host
  have long : isOverlong (List.replicate 4301 (.char '1')) = true := by
    refine isOverlong_iff.mpr ⟨isNumeral_replicate rfl (by decide), ?_⟩
    rw [List.length_replicate]
    decide
  have listed : host.listing "/p" = .ok ["7", List.replicate 4301 (.char '1')] := rfl
  have failed : (Source.enumerate host ⟨"/p"⟩ ⟨[]⟩).result = .error .numeralTooLong :=
    enumerate_overlong ⟨[]⟩ listed (List.mem_cons_of_mem _ (List.mem_singleton_self _)) long
  refine ⟨failed, fun exact => ?_⟩
  have given := exact.listed _ listed
  rw [failed] at given
  cases given

end NamedSignal.Proc
