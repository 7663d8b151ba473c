import NamedSignal.Proofs.LastComponent
import NamedSignal.Proofs.NameLookup
import NamedSignal.Proofs.RecordFields
import NamedSignal.Proofs.StatusBytes

/-!
Names recovered from bytes. A status record keeps the first bytes of a name and the
arguments of the process hold all of them, but the two are compared as text. As text the
part that is kept begins the name unless the cut falls inside a character; then the first
argument is taken for the name as it stands.
-/
namespace NamedSignal.Proc

open NamedSignal.Path (LastComponent)
open Utf8 (Severed)

section Recover

variable {name rest first : List UInt8}

/-- A name that no cut has severed is recovered. -/
theorem recoverName_unsevered (leads : LastComponent 0x2F first (name ++ rest))
    (unsevered : ¬ Severed name rest) :
    recoverName (Utf8.decode name) [Utf8.decode first] = Utf8.decode (name ++ rest) := by
  have begins := List.isPrefixOf_iff_prefix.mpr (Utf8.decode_prefix_iff.mpr unsevered)
  simp only [recoverName, Path.baseName_eq (Utf8.lastComponent_decode leads), begins, ↓reduceIte]

/-- One that is severed gives way to the argument. -/
theorem recoverName_severed (leads : LastComponent 0x2F first (name ++ rest))
    (severed : Severed name rest) :
    recoverName (Utf8.decode name) [Utf8.decode first] = Utf8.decode first := by
  have differs : ¬ (Utf8.decode name).isPrefixOf (Utf8.decode (name ++ rest)) = true :=
    fun begins => Utf8.decode_prefix_iff.mp (List.isPrefixOf_iff_prefix.mp begins) severed
  simp only [recoverName, Path.baseName_eq (Utf8.lastComponent_decode leads), differs,
    Bool.false_eq_true, ↓reduceIte]

end Recover

namespace Source

variable {source : Source} {host : Host} {pid : Int}

/-- A handle that does not know its name yet finds this one and remembers it. -/
def Resolves (source : Source) (host : Host) (pid : Int) (name : Text) : Prop :=
  ∀ clock, (source.resolve host { pid } clock).result = .ok (name, { pid, name := some name })

theorem resolves_iff {name : Text} :
    source.Resolves host pid name ↔ source.nameOf host pid = .ok name := by
  have unknown : (⟨pid, none⟩ : Handle).name = none := rfl
  have does := resolve_unknown_does source host unknown
  constructor
  · intro resolves
    have ended := (does.result_eq ⟨[]⟩).symm.trans (resolves ⟨[]⟩)
    cases found : source.nameOf host pid with
    | error failure =>
      rw [found] at ended
      cases ended
    | ok other =>
      rw [found] at ended
      cases ended
      rfl
  · intro found clock
    rw [does.result_eq, found]
    rfl

/-- What the records of a process say: the name in its status record, trimmed, and its
first argument. -/
structure Tells (source : Source) (host : Host) (pid : Int) (name first : List UInt8) : Prop where
  status : ∃ content, host.bytes (source.recordPath pid "status") = .ok content ∧
    (RawStatus.parse content).name? = some name
  arguments : ∃ content, host.bytes (source.recordPath pid "cmdline") = .ok content ∧
    content ≠ [] ∧ content.takeWhile (· != 0) = first

variable {name rest first : List UInt8}

/-- The recorded name is that of the status record, as text. -/
theorem recordedName_read {content : List UInt8}
    (status : host.bytes (source.recordPath pid "status") = .ok content) :
    source.recordedName host pid = .ok (Utf8.decode (RawStatus.parse content).name) := by
  simp only [recordedName, status, RawStatus.name_read]

theorem recordedName_of_name? {content : List UInt8}
    (status : host.bytes (source.recordPath pid "status") = .ok content)
    (named : (RawStatus.parse content).name? = some name) :
    source.recordedName host pid = .ok (Utf8.decode name) := by
  have known : (RawStatus.parse content).name = name := by
    rw [RawStatus.name, named]
    rfl
  rw [recordedName_read status, known]

/-- A name that does not fill its room is taken as it is recorded. -/
theorem nameOf_short (recorded : source.recordedName host pid = .ok (Utf8.decode name))
    (short : name.length < keptBytes) : source.nameOf host pid = .ok (Utf8.decode name) := by
  have whole : mayBeCut (Utf8.decode name) = false := by
    rw [mayBeCut, Utf8.encode_decode]
    exact decide_eq_false (Nat.not_le.mpr short)
  simp only [nameOf, recorded, whole, Bool.false_eq_true, ↓reduceIte]

/-- One that does is looked for in the arguments. -/
theorem nameOf_long (recorded : source.recordedName host pid = .ok (Utf8.decode name))
    (cut : keptBytes ≤ name.length) :
    source.nameOf host pid = (host.bytes (source.recordPath pid "cmdline")).map
      fun content => recoverName (Utf8.decode name) (Arguments.parse content) := by
  have long : mayBeCut (Utf8.decode name) = true := by
    rw [mayBeCut, Utf8.encode_decode]
    exact decide_eq_true cut
  simp only [nameOf, recorded, long, ↓reduceIte]
  cases host.bytes (source.recordPath pid "cmdline") <;> rfl

/-- It is looked for in the first one only. -/
theorem Tells.nameOf_long (tells : source.Tells host pid name first)
    (cut : keptBytes ≤ name.length) :
    source.nameOf host pid = .ok (recoverName (Utf8.decode name) [Utf8.decode first]) := by
  obtain ⟨status, held, named⟩ := tells.status
  obtain ⟨content, given, some_content, begins⟩ := tells.arguments
  have argument : (Arguments.parse content).head? = some (Utf8.decode first) := by
    rw [Arguments.parse_head?, Arguments.firstIn, begins, if_neg (by simpa using some_content)]
  rw [Source.nameOf_long (recordedName_of_name? held named) cut, given, Except.map,
    recoverName_head?, argument]
  rfl

/-- A name of which the status record keeps the first bytes, and the first argument all,
is recovered if the cut falls between two characters, and else only if the argument is
just the name: one that is severed gives way to the argument. -/
theorem cut_name_resolves_iff (tells : source.Tells host pid name first)
    (cut : keptBytes ≤ name.length) (leads : LastComponent 0x2F first (name ++ rest)) :
    (source.Resolves host pid (Utf8.decode (name ++ rest)) ↔
      ¬ Severed name rest ∨ first = name ++ rest) ∧
    (Severed name rest → source.Resolves host pid (Utf8.decode first)) := by
  have found := tells.nameOf_long cut
  simp only [resolves_iff, found]
  by_cases severed : Severed name rest
  · rw [recoverName_severed leads severed]
    simp [severed]
  · rw [recoverName_unsevered leads severed]
    simp [severed]

end Source

/-- A host with one process that has these records. -/
def recordedHost (status arguments : List UInt8) : Host where
  listing path := if path == "/p" then .ok ["12"] else .error .notFound
  content path :=
    if path == "/p/12/status" then .bytes status
    else if path == "/p/12/cmdline" then .bytes arguments
    else .unopenable .notFound
  fault _ := none

theorem recordedHost_bytes (status arguments : List UInt8) :
    (recordedHost status arguments).bytes (Source.recordPath ⟨"/p"⟩ 12 "status") = .ok status ∧
    (recordedHost status arguments).bytes (Source.recordPath ⟨"/p"⟩ 12 "cmdline") =
      .ok arguments := by
  have ofStatus : Source.recordPath ⟨"/p"⟩ 12 "status" = ("/p/12/status" : Text) := by
    decide +kernel
  have ofArguments : Source.recordPath ⟨"/p"⟩ 12 "cmdline" = ("/p/12/cmdline" : Text) := by
    decide +kernel
  have other : (("/p/12/cmdline" : Text) == "/p/12/status") = false := by decide +kernel
  rw [ofStatus, ofArguments]
  simp only [Host.bytes, recordedHost, beq_self_eq_true, other, Bool.false_eq_true, ↓reduceIte,
    and_self]

namespace Source

/-- A name that was cut between two characters is recovered. -/
theorem uncut_letters_recovered :
    let name := Utf8.encode "notifier-dämon"
    let rest := Utf8.encode "-2"
    let first := Utf8.encode "/opt/" ++ (name ++ rest)
    let host := recordedHost (Utf8.encode "Name:\t" ++ name) (first ++ [0])
    (Tells ⟨"/p"⟩ host 12 name first ∧ keptBytes ≤ name.length ∧
      LastComponent 0x2F first (name ++ rest)) ∧
    Resolves ⟨"/p"⟩ host 12 "notifier-dämon-2" := by
  intro name rest first host
  obtain ⟨status, arguments⟩ := recordedHost_bytes (Utf8.encode "Name:\t" ++ name) (first ++ [0])
  have tells : Tells ⟨"/p"⟩ host 12 name first :=
    ⟨⟨_, status, by decide +kernel⟩, ⟨_, arguments, by simp, by decide +kernel⟩⟩
  have cut : keptBytes ≤ name.length := by decide +kernel
  have leads : LastComponent 0x2F first (name ++ rest) :=
    .unslashed (.inr (by decide +kernel)) (by decide +kernel) (by decide +kernel)
  have unsevered : ¬ Severed name rest := Utf8.not_severed_ascii (by decide +kernel)
  have read : Utf8.decode (name ++ rest) = ("notifier-dämon-2" : Text) := by decide +kernel
  refine ⟨⟨tells, cut, leads⟩, ?_⟩
  rw [← read]
  exact (cut_name_resolves_iff tells cut leads).1.mpr (.inl unsevered)

/-- The cut falls inside the last character of a name, which is not recovered, so not
every name is. -/
theorem severed_name_unrecovered :
    let name := Utf8.encode "pre-synchronis" ++ [0xC3]
    let rest : List UInt8 := [0xA9]
    let first := Utf8.encode "/usr/bin/" ++ (name ++ rest)
    let host := recordedHost (Utf8.encode "Name:\t" ++ name) (first ++ [0])
    (Tells ⟨"/p"⟩ host 12 name first ∧ keptBytes ≤ name.length ∧
      LastComponent 0x2F first (name ++ rest) ∧
      Utf8.decode (name ++ rest) = ("pre-synchronisé" : Text) ∧
      Resolves ⟨"/p"⟩ host 12 "/usr/bin/pre-synchronisé") ∧
    ¬ ∀ (source : Source) (host : Host) (pid : Int) (name rest first : List UInt8),
      source.Tells host pid name first → keptBytes ≤ name.length →
      LastComponent 0x2F first (name ++ rest) →
      source.Resolves host pid (Utf8.decode (name ++ rest)) := by
  intro name rest first host
  obtain ⟨status, arguments⟩ := recordedHost_bytes (Utf8.encode "Name:\t" ++ name) (first ++ [0])
  have tells : Tells ⟨"/p"⟩ host 12 name first :=
    ⟨⟨_, status, by decide +kernel⟩, ⟨_, arguments, by simp, by decide +kernel⟩⟩
  have cut : keptBytes ≤ name.length := by decide +kernel
  have leads : LastComponent 0x2F first (name ++ rest) :=
    .unslashed (.inr (by decide +kernel)) (by decide +kernel) (by decide +kernel)
  have severed : Severed name rest :=
    ⟨'é', [0xC3], [0xA9], by decide +kernel, by simp, by simp, by simp [name], by simp [rest]⟩
  have read : Utf8.decode (name ++ rest) = ("pre-synchronisé" : Text) := by decide +kernel
  have argument : Utf8.decode first = ("/usr/bin/pre-synchronisé" : Text) := by decide +kernel
  have found := tells.nameOf_long cut
  rw [recoverName_severed leads severed] at found
  refine ⟨⟨tells, cut, leads, read, ?_⟩, ?_⟩
  · rwa [← argument, resolves_iff]
  · intro all
    have claimed := resolves_iff.mp (all _ host 12 name rest first tells cut leads)
    rw [found, Except.ok.injEq, Utf8.decode_inj] at claimed
    exact absurd claimed (by decide +kernel)

end Source
end NamedSignal.Proc
