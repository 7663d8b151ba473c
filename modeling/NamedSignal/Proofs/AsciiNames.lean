import NamedSignal.Proofs.NameRecovery

/-!
ASCII names of which the first bytes are kept. No cut severs such a name, but what is
kept of it is trimmed before its length is looked at. So a name is recovered unless there
is a blank at one end of what is kept of it; then the rest of that is taken for all of it.
-/
namespace NamedSignal.Proc

namespace RawStatus

/-- The line that gives a process these bytes for its name. -/
def nameLine (value : List UInt8) : List UInt8 := nameKey ++ 0x3A :: 0x09 :: value

/-- The record has such a line, and below it none with the same key. -/
def GoesBy (content value : List UInt8) : Prop :=
  ∃ above below, content.splitOn 0x0A = above ++ nameLine value :: below ∧
    ∀ line ∈ below, ∀ other, field? line ≠ some (nameKey, other)

theorem field?_nameLine (value : List UInt8) :
    field? (nameLine value) = some (nameKey, trim value) := by
  have whole : nameLine value = [0x4E, 0x61, 0x6D, 0x65, 0x3A] ++ 0x09 :: value := rfl
  have key : [0x4E, 0x61, 0x6D, 0x65, 0x3A].rdropWhile (· == 0x3A) = nameKey := by decide
  simp [field?, whole, key, List.takeWhile, List.dropWhile]

/-- The last field with the key `Name` is the name. -/
theorem name?_parse (content : List UInt8) :
    (parse content).name? = (((content.splitOn 0x0A).filterMap field?).filter
      (·.1 == nameKey)).getLast?.map (·.2) := by
  have keyed : (fun field : Text × Text => field.1 == Status.nameKey) ∘ read =
      fun field => field.1 == nameKey := by
    funext field
    rw [← decode_nameKey]
    exact Bool.eq_iff_iff.mpr (by simp [read])
  have decoded : (parse content).name?.map Utf8.decode = ((((content.splitOn 0x0A).filterMap
      field?).filter (·.1 == nameKey)).getLast?.map (·.2)).map Utf8.decode := by
    rw [name?, ← lookup_read, ← parse_read, decode_nameKey, Status.parse, Status.ofText,
      Status.lookup_setAll, List.lookup_nil, Option.or_none, fields_read, List.filter_map, keyed,
      List.getLast?_map, Option.map_map, Option.map_map]
    rfl
  exact Option.map_injective (fun _ _ => Utf8.decode_inj.mp) decoded

/-- A record has the name that it goes by, trimmed. -/
theorem name?_of_goesBy {content value : List UInt8} (goes : GoesBy content value) :
    (parse content).name? = some (trim value) := by
  obtain ⟨above, below, lines, last⟩ := goes
  have none_below : (below.filterMap field?).filter (·.1 == nameKey) = [] := by
    refine List.filter_eq_nil_iff.mpr fun field member key => ?_
    obtain ⟨line, within, has⟩ := List.mem_filterMap.mp member
    exact last line within field.2 (has.trans (by rw [← beq_iff_eq.mp key]))
  rw [name?_parse, lines, List.filterMap_append, List.filterMap_cons_some (field?_nameLine value),
    List.filter_append, List.filter_cons, none_below]
  simp

section Trim

variable {value : List UInt8}

/-- Trimming takes nothing from the middle. -/
theorem trim_sublist (value : List UInt8) : (trim value).Sublist value :=
  (List.rdropWhile_prefix isBlank _).sublist.trans (List.dropWhile_sublist _)

theorem length_trim_lt (trimmed : trim value ≠ value) : (trim value).length < value.length := by
  have part := trim_sublist value
  exact lt_of_le_of_ne part.length_le fun same => trimmed (part.eq_of_length same)

/-- Trimming keeps what has no blank at either end. -/
theorem trim_eq_self_iff (given : 0 < value.length) : trim value = value ↔
    isBlank value[0] = false ∧ isBlank value[value.length - 1] = false := by
  constructor
  · intro same
    have length := congrArg List.length same
    have front : value.dropWhile isBlank = value :=
      (List.dropWhile_sublist _).eq_of_length_le
        (length ▸ (List.rdropWhile_prefix isBlank _).length_le)
    have back : value.rdropWhile isBlank = value := by rwa [trim, front] at same
    have first := List.dropWhile_eq_self_iff.mp front given
    have last := List.rdropWhile_eq_self_iff.mp back (List.ne_nil_of_length_pos given)
    rw [List.getLast_eq_getElem] at last
    exact ⟨Bool.eq_false_iff.mpr first, Bool.eq_false_iff.mpr last⟩
  · rintro ⟨first, last⟩
    have front : value.dropWhile isBlank = value :=
      List.dropWhile_eq_self_iff.mpr fun _ => Bool.eq_false_iff.mp first
    have back : value.rdropWhile isBlank = value := by
      refine List.rdropWhile_eq_self_iff.mpr fun _ => ?_
      rw [List.getLast_eq_getElem]
      exact Bool.eq_false_iff.mp last
    rw [trim, front, back]

end Trim

end RawStatus

open NamedSignal.Path (LastComponent)
open Utf8 (Severed)

namespace Source

variable {source : Source} {host : Host} {pid : Int} {name above record arguments : List UInt8}

/-- An ASCII name of which the first bytes are told, and which the first argument ends in,
is recovered. -/
theorem Tells.nameOf_ascii (ascii : ∀ a ∈ name, a < 0x80) (long : 15 ≤ name.length)
    (plain : 0x2F ∉ name) (directory : above = [] ∨ above.getLast? = some 0x2F)
    (tells : source.Tells host pid (name.take 15) (above ++ name)) :
    source.nameOf host pid = .ok (Utf8.decode name) := by
  have whole : name.take 15 ++ name.drop 15 = name := List.take_append_drop 15 name
  have leads : LastComponent 0x2F (above ++ name) (name.take 15 ++ name.drop 15) := by
    rw [whole]
    exact .unslashed directory (List.ne_nil_of_length_pos (by omega)) plain
  have unsevered : ¬ Severed (name.take 15) (name.drop 15) := Utf8.not_severed_ascii
    fun a first => ascii a (List.mem_of_mem_drop (List.mem_of_head? first))
  have found := tells.nameOf_long (List.length_take_of_le long).ge
  rwa [recoverName_unsevered leads unsevered, whole] at found

/-- An ASCII name of which the status record keeps the first bytes, and which the first
argument ends in, is recovered exactly if neither the first byte nor the last that is kept
is a blank. Else the name is what is kept between such blanks. -/
theorem ascii_name_resolves_iff (ascii : ∀ a ∈ name, a < 0x80) (long : 15 ≤ name.length)
    (plain : 0x2F ∉ name)
    (status : host.bytes (source.recordPath pid "status") = .ok record)
    (goes : RawStatus.GoesBy record (name.take 15))
    (given : host.bytes (source.recordPath pid "cmdline") = .ok arguments)
    (first : arguments.takeWhile (· != 0) = above ++ name)
    (directory : above = [] ∨ above.getLast? = some 0x2F) :
    (source.Resolves host pid (Utf8.decode name) ↔
      RawStatus.isBlank name[0] = false ∧ RawStatus.isBlank name[14] = false) ∧
    (RawStatus.isBlank name[0] = true ∨ RawStatus.isBlank name[14] = true →
      source.Resolves host pid (Utf8.decode (RawStatus.trim (name.take 15)))) := by
  have named := RawStatus.name?_of_goesBy goes
  have room : (name.take 15).length = 15 := List.length_take_of_le long
  have ends : RawStatus.trim (name.take 15) = name.take 15 ↔
      RawStatus.isBlank name[0] = false ∧ RawStatus.isBlank name[14] = false := by
    rw [RawStatus.trim_eq_self_iff (by omega)]
    simp only [room, List.getElem_take]
  by_cases kept : RawStatus.trim (name.take 15) = name.take 15
  · have some_arguments : arguments ≠ [] := by
      rintro rfl
      have none_left := List.append_eq_nil_iff.mp first.symm
      simp [none_left.2] at long
    have tells : source.Tells host pid (name.take 15) (above ++ name) :=
      ⟨⟨record, status, kept ▸ named⟩, ⟨arguments, given, some_arguments, first⟩⟩
    have found := tells.nameOf_ascii ascii long plain directory
    obtain ⟨front, back⟩ := ends.mp kept
    simp [resolves_iff, found, front, back]
  -- What is left without the blanks counts as a whole name.
  · have shorter : (RawStatus.trim (name.take 15)).length < keptBytes :=
      (RawStatus.length_trim_lt kept).trans_eq room
    have found := nameOf_short (recordedName_of_name? status named) shorter
    have other : RawStatus.trim (name.take 15) ≠ name := by
      intro same
      rw [same] at shorter
      exact absurd long (Nat.not_le.mpr shorter)
    simp [resolves_iff, found, other, ← ends, kept]

/-- Blanks inside what is kept of a name, and behind it, do no harm. -/
theorem inner_blanks_recovered :
    let name := Utf8.encode "session helpers 2"
    let record := RawStatus.nameLine (name.take 15) ++ [0x0A]
    let above := Utf8.encode "/usr/lib/"
    let first := above ++ name
    let host := recordedHost record (first ++ [0])
    (∀ a ∈ name, a < 0x80) ∧ 15 ≤ name.length ∧ 0x2F ∉ name ∧
      RawStatus.GoesBy record (name.take 15) ∧
      Resolves ⟨"/p"⟩ host 12 "session helpers 2" := by
  intro name record above first host
  obtain ⟨status, given⟩ := recordedHost_bytes record (first ++ [0])
  have unblank : ∀ long : 15 ≤ name.length,
      RawStatus.isBlank name[0] = false ∧ RawStatus.isBlank name[14] = false := by
    decide +kernel
  have ascii : ∀ a ∈ name, a < 0x80 := by decide +kernel
  have long : 15 ≤ name.length := by decide +kernel
  have plain : 0x2F ∉ name := by decide +kernel
  have goes : RawStatus.GoesBy record (name.take 15) :=
    ⟨[], [[]], by decide +kernel, by simp [RawStatus.field?]⟩
  have begins : (first ++ [0]).takeWhile (· != 0) = above ++ name := by decide +kernel
  have directory : above.getLast? = some 0x2F := by decide +kernel
  have read : Utf8.decode name = ("session helpers 2" : Text) := by decide +kernel
  refine ⟨ascii, long, plain, goes, ?_⟩
  rw [← read]
  exact (ascii_name_resolves_iff ascii long plain status goes given begins
    (.inr directory)).1.mpr (unblank long)

/-- The last byte that is kept of a name is a blank, and the name is not recovered, so not
every ASCII name is. -/
theorem blank_at_cut_unrecovered :
    let name := Utf8.encode "session-helper 2"
    let record := RawStatus.nameLine (name.take 15) ++ [0x0A]
    let host := recordedHost record (name ++ [0])
    (15 ≤ name.length ∧ Resolves ⟨"/p"⟩ host 12 "session-helper" ∧
      ¬ Resolves ⟨"/p"⟩ host 12 "session-helper 2") ∧
    ¬ ∀ (source : Source) (host : Host) (pid : Int) (name above record arguments : List UInt8),
      (∀ a ∈ name, a < 0x80) → 15 ≤ name.length → 0x2F ∉ name → 0x0A ∉ name → 0 ∉ name →
      host.bytes (source.recordPath pid "status") = .ok record →
      RawStatus.GoesBy record (name.take 15) →
      host.bytes (source.recordPath pid "cmdline") = .ok arguments →
      arguments.takeWhile (· != 0) = above ++ name →
      above = [] ∨ above.getLast? = some 0x2F →
      source.Resolves host pid (Utf8.decode name) := by
  intro name record host
  obtain ⟨status, given⟩ := recordedHost_bytes record (name ++ [0])
  have goes : RawStatus.GoesBy record (name.take 15) :=
    ⟨[], [[]], by decide +kernel, by simp [RawStatus.field?]⟩
  have trimmed : RawStatus.trim (name.take 15) = Utf8.encode "session-helper" := by decide +kernel
  have found := nameOf_short (recordedName_of_name? status (RawStatus.name?_of_goesBy goes))
    (by decide +kernel)
  have short : Utf8.decode (Utf8.encode "session-helper") = ("session-helper" : Text) := by
    decide +kernel
  have whole : Utf8.decode name = ("session-helper 2" : Text) := by decide +kernel
  rw [trimmed, short] at found
  have unresolved : ¬ Resolves ⟨"/p"⟩ host 12 "session-helper 2" := by
    rw [resolves_iff, found, Except.ok.injEq]
    decide +kernel
  refine ⟨⟨by decide +kernel, resolves_iff.mpr found, unresolved⟩, fun all => unresolved ?_⟩
  rw [← whole]
  exact all _ host 12 name [] record (name ++ [0]) (by decide +kernel) (by decide +kernel)
    (by decide +kernel) (by decide +kernel) (by decide +kernel) status goes given
    (by decide +kernel) (.inl rfl)

end Source
end NamedSignal.Proc
