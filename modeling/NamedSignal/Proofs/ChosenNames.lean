import NamedSignal.Proofs.AsciiNames

/-!
Where the name of a process comes from. A short name is the recorded one. For a long one
there are three sources: the status record where there are no arguments, the last
component of the first argument where it begins with what is recorded, and otherwise that
argument as it stands. So each name stands in one of the two records, and the base names
of paths without a component are never taken for one.
-/
namespace NamedSignal

namespace Utf8

/-- What begins a text begins its bytes. -/
theorem encode_begins {front text : Text} (begins : front <+: text) :
    encode front <+: encode text := by
  obtain ⟨rest, rfl⟩ := begins
  rw [encode_append]
  exact List.prefix_append ..

theorem encode_within {part text : Text} (within : part <:+: text) :
    encode part <:+: encode text := by
  obtain ⟨above, below, rfl⟩ := within
  rw [encode_append, encode_append]
  exact List.infix_append ..

end Utf8

namespace Proc

open NamedSignal.Path (LastComponent slash)

namespace RawStatus

/-- The key in front of the first tab of a line, without the colons at its end, and the
value behind it with all its blanks. -/
def halves? (line : List UInt8) : Option (List UInt8 × List UInt8) :=
  match line.dropWhile (· != 0x09) with
  | [] => none
  | _ :: value => some ((line.takeWhile (· != 0x09)).rdropWhile (· == 0x3A), value)

/-- The value of `Name` as it stands: that of the last line with the key, and nothing where
there is none. -/
def nameValue (content : List UInt8) : List UInt8 :=
  ((((content.splitOn 0x0A).filterMap halves?).filter (·.1 == nameKey)).getLast?.map (·.2)).getD []

/-- A field with its value trimmed, if that is a name. -/
private def tidy (field : List UInt8 × List UInt8) : List UInt8 × List UInt8 :=
  (field.1, if field.1 == nameKey then trim field.2 else field.2)

private theorem field?_eq_tidy (line : List UInt8) : field? line = (halves? line).map tidy := by
  unfold field? halves?
  cases line.dropWhile (· != 0x09) <;> rfl

/-- The name of a record is the value of `Name`, trimmed. -/
theorem name_eq_trim (content : List UInt8) : (parse content).name = trim (nameValue content) := by
  have fields : (content.splitOn 0x0A).filterMap field? =
      ((content.splitOn 0x0A).filterMap halves?).map tidy := by
    rw [List.map_filterMap]
    exact List.filterMap_congr fun line _ => field?_eq_tidy line
  have keyed : ((·.1 == nameKey) ∘ tidy : List UInt8 × List UInt8 → Bool) = (·.1 == nameKey) := rfl
  rw [name, name?_parse, fields, List.filter_map, keyed, nameValue, List.getLast?_map]
  cases last : (((content.splitOn 0x0A).filterMap halves?).filter (·.1 == nameKey)).getLast? with
  | none => rfl
  | some field =>
    have key := (List.mem_filter.mp (List.mem_of_getLast? last)).2
    simp only [Option.map_some, Option.getD_some, tidy, key, ↓reduceIte]

/-- Trimming takes nothing from the middle. -/
theorem trim_within (value : List UInt8) : trim value <:+: value :=
  (List.rdropWhile_prefix isBlank _).isInfix.trans (List.dropWhile_suffix isBlank).isInfix

end RawStatus

/-- The name that arguments give for a recorded one which may have been cut. -/
inductive Chosen (name : List UInt8) : List (List UInt8) → Text → Prop where
  | recorded : Chosen name [] (Utf8.decode name)
  | component {first : List UInt8} {rest : List (List UInt8)} {last : Text}
      (leads : LastComponent slash (Utf8.decode first) last)
      (begins : Utf8.decode name <+: last) : Chosen name (first :: rest) last
  | argument {first : List UInt8} {rest : List (List UInt8)}
      (other : ∀ last, LastComponent slash (Utf8.decode first) last → ¬ Utf8.decode name <+: last) :
      Chosen name (first :: rest) (Utf8.decode first)

/-- What begins with a name that may be cut has more bytes than the base name of a path
without a component. -/
theorem lastComponent_of_begins {name path : Text} (long : keptBytes ≤ (Utf8.encode name).length)
    (begins : name <+: Path.baseName path) : LastComponent slash path (Path.baseName path) := by
  have enough := long.trans (Utf8.encode_begins begins).length_le
  rcases Path.baseName_cases path with leads | place | root
  · exact leads
  · rw [place] at enough
    exact absurd enough (by decide +kernel)
  · rw [root] at enough
    exact absurd enough (by decide +kernel)

namespace Chosen

variable {name : List UInt8} {arguments : List (List UInt8)} {found : Text}

/-- The name that is recovered is the one that the arguments give. -/
theorem recoverName (long : keptBytes ≤ name.length) (arguments : List (List UInt8)) :
    Chosen name arguments (Proc.recoverName (Utf8.decode name) (arguments.map Utf8.decode)) := by
  cases arguments with
  | nil => exact .recorded
  | cons first rest =>
    simp only [List.map_cons, Proc.recoverName]
    split
    · rename_i whole
      have begins := List.isPrefixOf_iff_prefix.mp whole
      have room : keptBytes ≤ (Utf8.encode (Utf8.decode name)).length := by rwa [Utf8.encode_decode]
      exact .component (lastComponent_of_begins room begins) begins
    · rename_i other
      refine .argument fun last leads begins => other (List.isPrefixOf_iff_prefix.mpr ?_)
      rwa [Path.baseName_eq leads]

/-- A component that begins with the recorded name is the name, with the bytes of the
recorded one in front and without a slash. -/
theorem of_component (chosen : Chosen name arguments found) {first : List UInt8} {last : Text}
    (given : arguments.head? = some first) (leads : LastComponent slash (Utf8.decode first) last)
    (begins : Utf8.decode name <+: last) :
    found = last ∧ name <+: Utf8.encode found ∧ slash ∉ found := by
  have same : found = last := by
    cases chosen with
    | recorded => cases given
    | component own =>
      cases given
      rw [← Path.baseName_eq own, Path.baseName_eq leads]
    | argument other =>
      cases given
      exact absurd begins (other last leads)
  subst same
  refine ⟨rfl, ?_, ?_⟩
  · have bytes := Utf8.encode_begins begins
    rwa [Utf8.encode_decode] at bytes
  · exact leads.not_mem

/-- Without such a component the first argument is the name. -/
theorem of_argument (chosen : Chosen name arguments found) {first : List UInt8}
    (given : arguments.head? = some first)
    (other : ¬ ∃ last, LastComponent slash (Utf8.decode first) last ∧ Utf8.decode name <+: last) :
    found = Utf8.decode first := by
  cases chosen with
  | recorded => cases given
  | component leads begins =>
    cases given
    exact absurd ⟨found, leads, begins⟩ other
  | argument =>
    cases given
    rfl

/-- An empty argument is taken as it is, for the empty path has no component. -/
theorem of_empty (chosen : Chosen name arguments found) (given : arguments.head? = some []) :
    found = [] := by
  rw [← Utf8.decode_nil]
  refine chosen.of_argument given ?_
  rintro ⟨last, leads, -⟩
  exact leads.path_ne_nil Utf8.decode_nil

/-- The bytes of a name stand in the status record or in the first argument. -/
theorem occurs (chosen : Chosen name arguments found) :
    Utf8.encode found <:+: name ∨ ∃ first, arguments.head? = some first ∧
      Utf8.encode found <:+: first := by
  cases chosen with
  | recorded =>
    rw [Utf8.encode_decode]
    exact .inl List.infix_rfl
  | @component first rest last leads =>
    have within := Utf8.encode_within leads.isInfix
    rw [Utf8.encode_decode] at within
    exact .inr ⟨first, rfl, within⟩
  | @argument first rest =>
    rw [Utf8.encode_decode]
    exact .inr ⟨first, rfl, List.infix_rfl⟩

end Chosen

namespace Source

/-- A name is what one of the records of its process holds. A recorded name of less than
15 bytes is taken as it is, and a longer one too where there are no arguments. Otherwise
the name is the last component of the first argument, if that begins with the recorded
one, and else this argument, even where it is empty. -/
theorem resolved_name_genuine (source : Source) (host : Host) (pid : Int) {record : List UInt8}
    (status : host.bytes (source.recordPath pid "status") = .ok record) :
    let value := RawStatus.nameValue record
    let name := RawStatus.trim value
    (name.length < 15 → source.Resolves host pid (Utf8.decode name) ∧ name <:+: value) ∧
    ∀ content, 15 ≤ name.length →
      host.bytes (source.recordPath pid "cmdline") = .ok content →
      ∃ found, source.Resolves host pid found ∧
        (Arguments.pieces content = [] → found = Utf8.decode name) ∧
        (∀ first, (Arguments.pieces content).head? = some first →
          (∀ last, LastComponent slash (Utf8.decode first) last → Utf8.decode name <+: last →
            found = last ∧ name <+: Utf8.encode found ∧ slash ∉ found) ∧
          ((¬ ∃ last, LastComponent slash (Utf8.decode first) last ∧ Utf8.decode name <+: last) →
            found = Utf8.decode first) ∧
          (first = [] → found = [])) ∧
        (Utf8.encode found <:+: value ∨ ∃ first,
          (Arguments.pieces content).head? = some first ∧ Utf8.encode found <:+: first) := by
  intro value name
  have recorded := recordedName_read status
  rw [RawStatus.name_eq_trim] at recorded
  have within : name <:+: value := RawStatus.trim_within value
  refine ⟨fun short => ⟨resolves_iff.mpr (nameOf_short recorded short), within⟩, ?_⟩
  intro content long given
  have chosen := Chosen.recoverName long (Arguments.pieces content)
  have here := nameOf_long recorded long
  rw [given, Except.map] at here
  refine ⟨_, resolves_iff.mpr here, ?_, ?_, ?_⟩
  · intro alone
    rw [Arguments.parse, alone]
    rfl
  · intro first head
    refine ⟨fun last => chosen.of_component head, chosen.of_argument head, ?_⟩
    rintro rfl
    exact chosen.of_empty head
  · obtain occurs | argument := chosen.occurs
    · exact .inl (occurs.trans within)
    · exact .inr argument

/-- A trimmed name of 15 bytes is recovered from a path with slashes at the end. -/
theorem directory_named_genuinely :
    let record := Utf8.encode "Pid:\t12\nName:\t averylongproces\t\n"
    let content := Utf8.encode "/opt/averylongproces-2//\u0000--name\u0000"
    let host := recordedHost record content
    host.bytes (recordPath ⟨"/p"⟩ 12 "status") = .ok record ∧
      Resolves ⟨"/p"⟩ host 12 "averylongproces-2" := by
  intro record content host
  obtain ⟨status, given⟩ := recordedHost_bytes record content
  have long : 15 ≤ (RawStatus.trim (RawStatus.nameValue record)).length := by decide +kernel
  have head : (Arguments.pieces content).head? = some (Utf8.encode "/opt/averylongproces-2//") := by
    decide +kernel
  have leads : LastComponent slash ("/opt/" ++ "averylongproces-2" ++ "//" : Text)
      "averylongproces-2" :=
    .intro (.inr (by decide +kernel)) (by decide +kernel) (by decide +kernel) (by decide +kernel)
  have path : Utf8.decode (Utf8.encode "/opt/averylongproces-2//") =
      ("/opt/" ++ "averylongproces-2" ++ "//" : Text) := by decide +kernel
  have begins : Utf8.decode (RawStatus.trim (RawStatus.nameValue record)) <+:
      ("averylongproces-2" : Text) := by decide +kernel
  rw [← path] at leads
  obtain ⟨found, resolves, -, byArgument, -⟩ :=
    (resolved_name_genuine ⟨"/p"⟩ host 12 status).2 content long given
  obtain ⟨rfl, -, -⟩ := (byArgument _ head).1 _ leads begins
  exact ⟨status, resolves⟩

end Source
end Proc
end NamedSignal
