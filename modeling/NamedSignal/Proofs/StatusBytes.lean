import NamedSignal.Proc.Records
import NamedSignal.Proofs.AsciiMarks

/-!
Status records as bytes. All that cuts a record apart is ASCII, so its lines, keys and
values can be told from the bytes alone, and reading those gives the fields that the
text of the record has. Nothing is lost on the way: the bytes of a field are those that
it has in the record.
-/
namespace NamedSignal.Proc

/-- Keys and values in bytes, each key once and in the order of first appearance. -/
abbrev RawStatus := List (List UInt8 × List UInt8)

namespace RawStatus

/-- The bytes of `Name`. -/
def nameKey : List UInt8 := [0x4E, 0x61, 0x6D, 0x65]

/-- The byte of a space or of a tab. -/
def isBlank (b : UInt8) : Bool := b == 0x20 || b == 0x09

/-- What is between the blanks at both ends. -/
def trim (value : List UInt8) : List UInt8 := (value.dropWhile isBlank).rdropWhile isBlank

/-- The key in front of the first tab of a line, without the colons at its end, and the
value behind it; only the value of `Name` is trimmed. -/
def field? (line : List UInt8) : Option (List UInt8 × List UInt8) :=
  match line.dropWhile (· != 0x09) with
  | [] => none
  | _ :: value =>
    let key := (line.takeWhile (· != 0x09)).rdropWhile (· == 0x3A)
    some (key, if key == nameKey then trim value else value)

/-- Give a key a value. -/
def set (fields : RawStatus) (key value : List UInt8) : RawStatus :=
  if fields.any (·.1 == key) then
    fields.map fun field => if field.1 == key then (key, value) else field
  else fields ++ [(key, value)]

/-- The fields of a record, line by line. -/
def parse (content : List UInt8) : RawStatus :=
  ((content.splitOn 0x0A).filterMap field?).foldl
    (fun fields field => fields.set field.1 field.2) []

/-- The trimmed value of `Name`, if there is one. -/
def name? (fields : RawStatus) : Option (List UInt8) := fields.lookup nameKey

/-- The text of a field. -/
def read (field : List UInt8 × List UInt8) : Text × Text :=
  (Utf8.decode field.1, Utf8.decode field.2)

/-- The bytes of a field. -/
def written (field : Text × Text) : List UInt8 × List UInt8 :=
  (Utf8.encode field.1, Utf8.encode field.2)

theorem written_read (field : List UInt8 × List UInt8) : written (read field) = field := by
  simp [written, read]

theorem decode_nameKey : Utf8.decode nameKey = Status.nameKey := by decide +kernel

theorem blanks : Utf8.Marks Status.isBlank isBlank := by
  constructor
  · intro b blank
    rcases Bool.or_eq_true_iff.mp blank with space | tab
    · rw [beq_iff_eq.mp space]; decide
    · rw [beq_iff_eq.mp tab]; decide
  · intro s
    have space : Symbol.ofAscii 0x20 = .char ' ' := by decide
    have tab : Symbol.ofAscii 0x09 = .char '\t' := by decide
    simp [Status.isBlank, isBlank, or_and_right, exists_or, space, tab]

section Cut

variable {α : Type} [BEq α] [LawfulBEq α] {mark : α} {front : List α}

theorem takeWhile_ne_append (absent : mark ∉ front) (rest : List α) :
    (front ++ mark :: rest).takeWhile (· != mark) = front := by
  have apart : ∀ item ∈ front, (item != mark) = true := fun item member =>
    bne_iff_ne.mpr fun same => absent (same ▸ member)
  rw [List.takeWhile_append_of_pos apart, List.takeWhile_cons_of_neg (by simp), List.append_nil]

theorem dropWhile_ne_append (absent : mark ∉ front) (rest : List α) :
    (front ++ mark :: rest).dropWhile (· != mark) = mark :: rest := by
  have apart : ∀ item ∈ front, (item != mark) = true := fun item member =>
    bne_iff_ne.mpr fun same => absent (same ▸ member)
  rw [List.dropWhile_append_of_pos apart, List.dropWhile_cons_of_neg (by simp)]

theorem dropWhile_ne_eq_nil (absent : mark ∉ front) : front.dropWhile (· != mark) = [] :=
  List.dropWhile_eq_nil_iff.mpr fun _ member => bne_iff_ne.mpr fun same => absent (same ▸ member)

end Cut

/-- A line read as text has the field that its bytes have. -/
theorem field?_decode (line : List UInt8) :
    Status.field? (Utf8.decode line) = (field? line).map read := by
  have tab : Symbol.char '\t' = .ofAscii 0x09 := by decide
  have colon : Symbol.char ':' = .ofAscii 0x3A := by decide
  have short : (0x09 : UInt8) < 0x80 := by decide
  have colons : Utf8.Marks (· == .ofAscii 0x3A) (· == 0x3A) := .of_byte (by decide)
  unfold Status.field? field?
  rw [tab, colon]
  by_cases member : (0x09 : UInt8) ∈ line
  · obtain ⟨front, value, rfl, absent⟩ := List.eq_append_cons_of_mem member
    have unread : .ofAscii 0x09 ∉ Utf8.decode front := mt (Utf8.ofAscii_mem_decode short).mp absent
    have keys : (Utf8.decode (front.rdropWhile (· == 0x3A)) == Status.nameKey) =
        (front.rdropWhile (· == 0x3A) == nameKey) := by
      rw [← decode_nameKey]
      exact Bool.eq_iff_iff.mpr (by simp)
    rw [Utf8.decode_append_ascii short, dropWhile_ne_append unread, dropWhile_ne_append absent]
    simp only [takeWhile_ne_append unread, takeWhile_ne_append absent, Utf8.trimEnd_decode colons,
      keys, Utf8.trim_decode blanks, Option.map_some, read, trim]
    split <;> rfl
  · have unread : .ofAscii 0x09 ∉ Utf8.decode line := mt (Utf8.ofAscii_mem_decode short).mp member
    rw [dropWhile_ne_eq_nil unread, dropWhile_ne_eq_nil member]
    rfl

/-- Fields that are set in bytes are set in the text. -/
theorem set_read (fields : RawStatus) (key value : List UInt8) :
    Status.set (fields.map read) (Utf8.decode key) (Utf8.decode value) =
      (fields.set key value).map read := by
  unfold Status.set set
  have present : (fields.map read).any (·.1 == Utf8.decode key) = fields.any (·.1 == key) := by
    rw [List.any_map]
    refine congrArg fields.any (funext fun field => Bool.eq_iff_iff.mpr ?_)
    simp [read]
  rw [present]
  split
  · rw [List.map_map, List.map_map]
    refine List.map_congr_left fun field _ => ?_
    by_cases same : field.1 = key
    · simp [read, same]
    · simp [read, same]
  · rw [List.map_append]
    rfl

theorem setAll_read (found fields : RawStatus) :
    found.foldl (fun status field => Status.set status (read field).1 (read field).2)
        (fields.map read) =
      (found.foldl (fun fields field => fields.set field.1 field.2) fields).map read := by
  induction found generalizing fields with
  | nil => rfl
  | cons field rest ih =>
    rw [List.foldl_cons, List.foldl_cons, ← ih, ← set_read]
    rfl

/-- The lines of a record have the fields that their bytes have. -/
theorem fields_read (content : List UInt8) :
    ((Utf8.decode content).splitOn (.char '\n')).filterMap Status.field? =
      ((content.splitOn 0x0A).filterMap field?).map read := by
  have lineEnd : Symbol.char '\n' = .ofAscii 0x0A := by decide
  have each : Status.field? ∘ Utf8.decode = fun line => (field? line).map read :=
    funext field?_decode
  rw [lineEnd, Utf8.splitOn_decode (by decide), List.filterMap_map, each, ← List.map_filterMap]

/-- A record read as text has the fields that its bytes have. -/
theorem parse_read (content : List UInt8) :
    Status.parse content = (parse content).map read := by
  rw [Status.parse, Status.ofText, fields_read, List.foldl_map]
  exact setAll_read _ []

/-- The value of a key as text is what its bytes read as. -/
theorem lookup_read (fields : RawStatus) (key : List UInt8) :
    (fields.map read).lookup (Utf8.decode key) = (fields.lookup key).map Utf8.decode := by
  induction fields with
  | nil => rfl
  | cons field rest ih =>
    have keys : (Utf8.decode key == (read field).1) = (key == field.1) :=
      Bool.eq_iff_iff.mpr (by simp [read])
    rw [List.map_cons, List.lookup_cons, List.lookup_cons, keys, ih]
    cases key == field.1 <;> rfl

/-- The trimmed value of `Name`, empty where the record has none. -/
def name (fields : RawStatus) : List UInt8 := fields.name?.getD []

theorem name_read (content : List UInt8) :
    (Status.parse content).name = Utf8.decode (parse content).name := by
  rw [Status.name, parse_read, ← decode_nameKey, lookup_read, name, name?]
  cases (parse content).lookup nameKey with
  | none => simp
  | some value => rfl

end RawStatus

/-- Reading a record first and taking it apart afterwards loses nothing. Its fields are
those that its bytes have, read one by one, and written again they are these bytes. So
the length that tells whether a name may be cut is the length it has in the record, and
two names are the same exactly if their bytes are. -/
theorem Status.parse_bytewise (content : List UInt8) :
    parse content = (RawStatus.parse content).map RawStatus.read ∧
    (parse content).map RawStatus.written = RawStatus.parse content ∧
    (Utf8.encode (parse content).name).length = (RawStatus.parse content).name.length ∧
    mayBeCut (parse content).name = decide (15 ≤ (RawStatus.parse content).name.length) ∧
    ∀ other, (parse content).name = (parse other).name ↔
      (RawStatus.parse content).name = (RawStatus.parse other).name := by
  have fields := RawStatus.parse_read content
  have name := RawStatus.name_read content
  have length : (Utf8.encode (parse content).name).length =
      (RawStatus.parse content).name.length := by
    rw [name, Utf8.encode_decode]
  refine ⟨fields, ?_, length, ?_, ?_⟩
  · have back : RawStatus.written ∘ RawStatus.read = id := funext RawStatus.written_read
    rw [fields, List.map_map, back, List.map_id]
  · rw [mayBeCut, length]
    rfl
  · intro other
    rw [name, RawStatus.name_read other, Utf8.decode_inj]

end NamedSignal.Proc
