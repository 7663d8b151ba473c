import NamedSignal.Proofs.RecordFields
import NamedSignal.Proofs.StatusBytes

/-!
Status records that are written line by line. Fields that are written as lines are read
back as they were, the last one of a key in place of all others, and only the value of
`Name` comes back without the blanks around it. Lines without a tab may stand in front of
any line of a record, or behind the last one, and nothing else is read because of them.
-/
namespace NamedSignal

theorem Text.ofString_inj {s t : String} : Text.ofString s = Text.ofString t ↔ s = t := by
  refine ⟨fun same => ?_, congrArg Text.ofString⟩
  have letters := List.map_injective_iff.mpr Symbol.char_injective same
  exact String.toList_injective letters

/-- Characters are read back from their bytes. -/
theorem Utf8.decode_encode_chars (chars : List Char) :
    decode (encode (chars.map .char)) = chars.map .char := by
  induction chars with
  | nil => simp
  | cons c rest ih =>
    rw [List.map_cons, encode_cons]
    exact (decode_char c _).trans (congrArg _ ih)

namespace Proc.Status

/-- A field that a line can hold. Its key ends at a tab, loses the colons at its end and
stays on the line, and so does its value. -/
structure Writable (field : String × String) : Prop where
  tabless : '\t' ∉ field.1.toList
  keyLine : '\n' ∉ field.1.toList
  uncoloned : field.1.toList.getLast? ≠ some ':'
  valueLine : '\n' ∉ field.2.toList

instance (field : String × String) : Decidable (Writable field) :=
  decidable_of_iff ('\t' ∉ field.1.toList ∧ '\n' ∉ field.1.toList ∧
      field.1.toList.getLast? ≠ some ':' ∧ '\n' ∉ field.2.toList)
    ⟨fun ⟨tabless, keyLine, uncoloned, valueLine⟩ => ⟨tabless, keyLine, uncoloned, valueLine⟩,
      fun ⟨tabless, keyLine, uncoloned, valueLine⟩ => ⟨tabless, keyLine, uncoloned, valueLine⟩⟩

/-- The line of a field. -/
def line (field : String × String) : List Char :=
  field.1.toList ++ ':' :: '\t' :: field.2.toList ++ ['\n']

/-- The record of fields, a line for each. -/
def record (fields : List (String × String)) : List UInt8 :=
  Utf8.encode ((fields.flatMap line).map .char)

/-- What is left of a value between the blanks at its ends. -/
structure Trimmed (value kept : Text) : Prop where
  between : ∃ before after, value = before ++ kept ++ after ∧
    (∀ s ∈ before, isBlank s = true) ∧ ∀ s ∈ after, isBlank s = true
  first : ∀ s ∈ kept.head?, isBlank s = false
  last : ∀ s ∈ kept.getLast?, isBlank s = false

/-- What is to be read for the value of a key. -/
inductive Shown (key value : String) : Text → Prop
  | name {kept : Text} (own : key = "Name") (trimmed : Trimmed value kept) : Shown key value kept
  | other (other : key ≠ "Name") : Shown key value value

/-- The last of the fields that has the key is to be read so. -/
def LastShown (fields : List (String × String)) (asked shown : Text) : Prop :=
  ∃ (above below : List (String × String)) (key value : String),
    fields = above ++ (key, value) :: below ∧ (∀ field ∈ below, field.1 ≠ key) ∧
      asked = key ∧ Shown key value shown

/-- What comes next begins a line. -/
def EndsLine (content : List UInt8) : Prop := content = [] ∨ content.getLast? = some 0x0A

section Trim

variable {value kept : Text}

theorem trimmed_trim (value : Text) : Trimmed value (Text.trim isBlank value) where
  between := by
    refine ⟨value.takeWhile isBlank, (value.dropWhile isBlank).rtakeWhile isBlank, ?_, ?_, ?_⟩
    · calc value
          = value.takeWhile isBlank ++ value.dropWhile isBlank :=
            List.takeWhile_append_dropWhile.symm
        _ = value.takeWhile isBlank ++ ((value.dropWhile isBlank).rdropWhile isBlank ++
              (value.dropWhile isBlank).rtakeWhile isBlank) := by
            rw [List.rdropWhile_append_rtakeWhile]
        _ = _ := (List.append_assoc ..).symm
    · exact fun s => List.mem_takeWhile_imp
    · exact fun s => List.mem_rtakeWhile_imp
  first := by
    intro s here
    obtain ⟨rest, whole⟩ : Text.trim isBlank value <+: value.dropWhile isBlank :=
      List.rdropWhile_prefix ..
    have front : (value.dropWhile isBlank).head? = some s := by
      rw [← whole, List.head?_append, here, Option.some_or]
    have unblank := List.head?_dropWhile_not isBlank value
    rwa [front] at unblank
  last := by
    intro s here
    have given : Text.trim isBlank value ≠ [] := by
      intro empty
      rw [empty] at here
      cases here
    have unblank := List.rdropWhile_last_not isBlank (value.dropWhile isBlank) given
    rw [List.getLast?_eq_some_getLast given, Option.mem_some_iff] at here
    exact Bool.eq_false_iff.mpr (here ▸ unblank)

/-- Nothing else is left between the blanks. -/
theorem Trimmed.trim_eq (trimmed : Trimmed value kept) : Text.trim isBlank value = kept := by
  obtain ⟨⟨before, after, rfl, front, back⟩, first, last⟩ := trimmed
  show ((before ++ kept ++ after).dropWhile isBlank).rdropWhile isBlank = kept
  rw [List.append_assoc, List.dropWhile_append_of_pos front]
  cases kept with
  | nil =>
    rw [List.nil_append, List.dropWhile_eq_nil_iff.mpr back]
    rfl
  | cons s rest =>
    have begins : ¬ isBlank s = true := Bool.eq_false_iff.mp (first s rfl)
    have ends : (s :: rest).rdropWhile isBlank = s :: rest :=
      List.rdropWhile_eq_self_iff.mpr fun given =>
        Bool.eq_false_iff.mp (last _ (List.getLast?_eq_some_getLast given))
    have dropped : (s :: rest ++ after).rdropWhile isBlank = (s :: rest).rdropWhile isBlank := by
      rw [List.rdropWhile, List.reverse_append,
        List.dropWhile_append_of_pos fun s member => back s (List.mem_reverse.mp member)]
      rfl
    rw [List.cons_append, List.dropWhile_cons_of_neg begins, ← List.cons_append, dropped, ends]

end Trim

/-- The value that is read from a field. -/
def shown (field : String × String) : Text :=
  if field.1 = "Name" then Text.trim isBlank field.2 else field.2

theorem shown_iff {key value : String} {text : Text} :
    Shown key value text ↔ text = shown (key, value) := by
  constructor
  · rintro (⟨own, trimmed⟩ | other)
    · rw [shown, if_pos own]
      exact trimmed.trim_eq.symm
    · exact (if_neg other).symm
  · rintro rfl
    by_cases own : key = "Name"
    · rw [shown, if_pos own]
      exact .name own (trimmed_trim _)
    · rw [shown, if_neg own]
      exact .other own

section Lines

variable {field : String × String} (writable : Writable field)

include writable

/-- A field is read back from its line. -/
theorem field?_line :
    field? ((field.1.toList ++ ':' :: '\t' :: field.2.toList).map .char) =
      some (Text.ofString field.1, shown field) := by
  obtain ⟨key, value⟩ := field
  have whole : (key.toList ++ ':' :: '\t' :: value.toList).map Symbol.char =
      (Text.ofString key ++ [.char ':']) ++ .char '\t' :: Text.ofString value := by
    simp [Text.ofString]
  have tabless : Symbol.char '\t' ∉ Text.ofString key ++ [.char ':'] := by
    simpa [Text.ofString] using writable.tabless
  have uncoloned : (Text.ofString key).rdropWhile (· == .char ':') = Text.ofString key := by
    refine List.rdropWhile_eq_self_iff.mpr fun given colon => writable.uncoloned ?_
    have last := List.getLast?_eq_some_getLast given
    rw [beq_iff_eq.mp colon, Text.ofString, List.getLast?_map] at last
    obtain ⟨c, ends, same⟩ := Option.map_eq_some_iff.mp last
    rw [ends, Symbol.char.inj same]
  have stripped : Text.trimEnd (· == .char ':') (Text.ofString key ++ [.char ':']) =
      Text.ofString key := by
    have colon : (Symbol.char ':' == .char ':') = true := beq_self_eq_true _
    exact (List.rdropWhile_concat_pos (· == Symbol.char ':') _ _ colon).trans uncoloned
  rw [whole]
  unfold field?
  rw [RawStatus.dropWhile_ne_append tabless, RawStatus.takeWhile_ne_append tabless]
  simp only [stripped, nameKey, beq_iff_eq, Text.ofString_inj, shown]

theorem lineEnd_not_mem : '\n' ∉ field.1.toList ++ ':' :: '\t' :: field.2.toList := by
  simp [writable.keyLine, writable.valueLine]

end Lines

/-- The fields that are found in the text of a record, in order. -/
def found (content : Text) : Status := (content.splitOn (.char '\n')).filterMap field?

/-- The fields of a record are found one after another. -/
theorem found_record {fields : List (String × String)}
    (writable : ∀ field ∈ fields, Writable field) :
    found ((fields.flatMap line).map .char) =
      fields.map fun field => (Text.ofString field.1, shown field) := by
  induction fields with
  | nil => rfl
  | cons field rest ih =>
    obtain ⟨here, behind⟩ := List.forall_mem_cons.mp writable
    have split : ((field :: rest).flatMap line).map Symbol.char =
        (field.1.toList ++ ':' :: '\t' :: field.2.toList).map .char ++
          .char '\n' :: (rest.flatMap line).map .char := by
      simp [line]
    have apart : Symbol.char '\n' ∉
        (field.1.toList ++ ':' :: '\t' :: field.2.toList).map .char := by
      rw [List.mem_map_of_injective fun _ _ => Symbol.char.inj]
      exact lineEnd_not_mem here
    rw [found, split, List.splitOn_append_cons_self_of_not_mem apart,
      List.filterMap_cons_some (field?_line here), List.map_cons]
    exact congrArg _ (ih behind)

/-- What is read for a key is what its last field shows. -/
theorem lookup_record {fields : List (String × String)}
    (writable : ∀ field ∈ fields, Writable field) {asked text : Text} :
    (parse (record fields)).lookup asked = some text ↔ LastShown fields asked text := by
  have parsed : (parse (record fields)).lookup asked = (fields.reverse.find? fun field =>
      Text.ofString field.1 == asked).map shown := by
    rw [parse, record, Utf8.decode_encode_chars, ofText]
    show ((found _).foldl _ []).lookup asked = _
    rw [found_record writable, lookup_setAll, List.lookup_nil, Option.or_none, List.filter_map,
      List.getLast?_map, Option.map_map, List.getLast?_filter]
    rfl
  rw [parsed, Option.map_eq_some_iff]
  constructor
  · rintro ⟨⟨key, value⟩, last, rfl⟩
    obtain ⟨same, below, above, split, others⟩ := List.find?_eq_some_iff_append.mp last
    refine ⟨above.reverse, below.reverse, key, value, ?_, ?_, (beq_iff_eq.mp same).symm,
      shown_iff.mpr rfl⟩
    · rw [← List.reverse_reverse fields, split]
      simp
    · intro field member own
      have differs := others field (List.mem_reverse.mp member)
      rw [own, same] at differs
      cases differs
  · rintro ⟨above, below, key, value, rfl, others, rfl, shows⟩
    refine ⟨(key, value), List.find?_eq_some_iff_append.mpr ⟨beq_self_eq_true _, below.reverse,
      above.reverse, by simp, fun field member => ?_⟩, (shown_iff.mp shows).symm⟩
    have differs := others field (List.mem_reverse.mp member)
    simpa [Text.ofString_inj] using differs

/-- No key is given twice. -/
theorem keys_nodup_set {fields : Status} (distinct : (fields.map (·.1)).Nodup) (key value : Text) :
    ((fields.set key value).map (·.1)).Nodup := by
  unfold set
  by_cases present : fields.any (·.1 == key) = true
  · have keys : (fields.map fun field => if field.1 == key then (key, value) else field).map (·.1) =
        fields.map (·.1) := by
      rw [List.map_map]
      refine List.map_congr_left fun field _ => ?_
      by_cases same : field.1 = key <;> simp [same]
    rwa [if_pos present, keys]
  · have fresh : key ∉ fields.map (·.1) := by simpa using present
    rw [if_neg present, List.map_append]
    exact List.perm_append_comm.nodup_iff.mpr (List.nodup_cons.mpr ⟨fresh, distinct⟩)

theorem keys_nodup (content : List UInt8) : ((parse content).map (·.1)).Nodup := by
  unfold parse ofText
  generalize ((Utf8.decode content).splitOn (.char '\n')).filterMap field? = found
  suffices kept : ∀ start : Status, (start.map (·.1)).Nodup →
      ((found.foldl (fun fields field => fields.set field.1 field.2) start).map (·.1)).Nodup from
    kept [] List.nodup_nil
  induction found with
  | nil => exact fun start distinct => distinct
  | cons field rest ih => exact fun start distinct => ih _ (keys_nodup_set distinct _ _)

end Proc.Status

namespace Proc.RawStatus

variable {front rest : List UInt8}

/-- A record whose first part ends a line has the fields of both parts. -/
theorem fields_append (ends : Status.EndsLine front) (rest : List UInt8) :
    ((front ++ rest).splitOn 0x0A).filterMap field? =
      (front.splitOn 0x0A).filterMap field? ++ (rest.splitOn 0x0A).filterMap field? := by
  obtain rfl | last := ends
  · rfl
  · obtain ⟨above, rfl⟩ := List.getLast?_eq_some_iff.mp last
    have none_behind : (([] : List UInt8).splitOn 0x0A).filterMap field? = [] := rfl
    rw [List.append_assoc, List.singleton_append, List.splitOn_append_cons_self,
      List.splitOn_append_cons_self, List.filterMap_append, List.filterMap_append, none_behind,
      List.append_nil]

/-- Lines without a tab have no fields. -/
theorem fields_of_tabless {lines : List (List UInt8)}
    (tabless : ∀ line ∈ lines, 0x09 ∉ line ∧ 0x0A ∉ line) (rest : List UInt8) :
    ((lines.flatMap (· ++ [0x0A]) ++ rest).splitOn 0x0A).filterMap field? =
      (rest.splitOn 0x0A).filterMap field? := by
  induction lines with
  | nil => rfl
  | cons line more ih =>
    obtain ⟨⟨noTab, noEnd⟩, behind⟩ := List.forall_mem_cons.mp tabless
    have nothing : field? line = none := by
      unfold field?
      rw [dropWhile_ne_eq_nil noTab]
    have split : (line :: more).flatMap (· ++ [0x0A]) ++ rest =
        line ++ 0x0A :: (more.flatMap (· ++ [0x0A]) ++ rest) := by simp
    rw [split, List.splitOn_append_cons_self_of_not_mem noEnd, List.filterMap_cons_none nothing,
      ih behind]

/-- A record says what it says without the lines that have no tab. -/
theorem parse_tabless (ends : Status.EndsLine front) {lines : List (List UInt8)}
    (tabless : ∀ line ∈ lines, 0x09 ∉ line ∧ 0x0A ∉ line) (rest : List UInt8) :
    Status.parse (front ++ lines.flatMap (· ++ [0x0A]) ++ rest) = Status.parse (front ++ rest) := by
  have same : parse (front ++ lines.flatMap (· ++ [0x0A]) ++ rest) = parse (front ++ rest) := by
    rw [parse, parse, List.append_assoc, fields_append ends, fields_append ends,
      fields_of_tabless tabless]
  rw [parse_read, parse_read, same]

end Proc.RawStatus

namespace Proc.Status

/-- Reading undoes the writing of fields. Each key has what its last field shows, no other
key is there, and none is there twice. Wherever a line begins, in this record as in any
other, lines without a tab can be put in, and the same is read. -/
theorem record_read_back {fields : List (String × String)}
    (writable : ∀ field ∈ fields, Writable field) :
    (∀ asked text, (parse (record fields)).lookup asked = some text ↔
      LastShown fields asked text) ∧
    ((parse (record fields)).map (·.1)).Nodup ∧
    ∀ (front rest : List UInt8) (lines : List (List UInt8)), EndsLine front →
      (∀ line ∈ lines, 0x09 ∉ line ∧ 0x0A ∉ line) →
      parse (front ++ lines.flatMap (· ++ [0x0A]) ++ rest) = parse (front ++ rest) := by
  refine ⟨fun asked text => lookup_record writable, keys_nodup _, ?_⟩
  intro front rest lines ends tabless
  exact RawStatus.parse_tabless ends tabless rest

/-- Of two names the last one counts, and it is trimmed. A key may be empty or have a colon
inside, a value may begin with a tab, and a remark behind the first line changes nothing. -/
theorem mixed_record_read_back :
    let fields := [("Name", "w"), ("", "0\t0"), ("a:b", "\t:"), ("Name", "\t git sync  ")]
    (∀ field ∈ fields, Writable field) ∧
    (parse (record fields)).lookup (Text.ofString "Name") = some (Text.ofString "git sync") ∧
    (parse (record fields)).lookup [] = some (Text.ofString "0\t0") ∧
    (parse (record fields)).lookup (Text.ofString "a:b") = some (Text.ofString "\t:") ∧
    parse (record [("Name", "w")] ++ Utf8.encode "Name: x\n" ++ record fields.tail) =
      parse (record fields) := by
  intro fields
  have writable : ∀ field ∈ fields, Writable field := by decide +kernel
  obtain ⟨shows, -, remarks⟩ := record_read_back writable
  have trimmed : Trimmed "\t git sync  " "git sync" :=
    ⟨⟨"\t ", "  ", by decide +kernel, by decide +kernel, by decide +kernel⟩, by decide +kernel,
      by decide +kernel⟩
  refine ⟨writable, (shows _ _).mpr ?_, (shows _ _).mpr ?_, (shows _ _).mpr ?_, ?_⟩
  · exact ⟨fields.take 3, [], "Name", _, rfl, by decide, rfl, .name rfl trimmed⟩
  · exact ⟨fields.take 1, fields.drop 2, "", _, rfl, by decide, rfl, .other (by decide)⟩
  · exact ⟨fields.take 2, fields.drop 3, "a:b", _, rfl, by decide, rfl, .other (by decide)⟩
  · have first : EndsLine (record [("Name", "w")]) := .inr (by decide +kernel)
    have unsaid := remarks _ (record fields.tail) [Utf8.encode "Name: x"] first (by decide +kernel)
    have whole : record [("Name", "w")] ++ record fields.tail = record fields := by decide +kernel
    rwa [whole] at unsaid

end Proc.Status
end NamedSignal
