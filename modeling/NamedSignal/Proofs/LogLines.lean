import Mathlib.Algebra.Order.BigOperators.Group.List
import NamedSignal.Proofs.DeliveryLog
import NamedSignal.Proofs.OutsideText

/-!
The lines of a log file. A record that is written ends in a line end and has another one
for each in its message, so the lines that a call leaves behind are its records exactly
if no text from outside that stands in a message as it is has a line end. Each record
begins with its time and its level; a line that such a text begins need not.
-/
namespace NamedSignal

namespace Utf8

/-- The byte of a line end. -/
def lineEnd : UInt8 := 0x0A

theorem ofNat_eq_lineEnd {m : Nat} (byte : m < 0x100) : UInt8.ofNat m = lineEnd ↔ m = 10 := by
  have value : (UInt8.ofNat m).toNat = m := by
    rw [UInt8.toNat_ofNat']
    omega
  rw [← UInt8.toNat_inj, value]
  rfl

/-- All bytes of a longer form have their highest bit set. -/
theorem lineEnd_not_mem_ofCode {n : Nat} (long : 0x80 ≤ n) (valid : n < 0x110000) :
    lineEnd ∉ ofCode n := by
  have other {m : Nat} (above : 0x80 ≤ m) (byte : m < 0x100) : lineEnd ≠ UInt8.ofNat m := by
    rw [ne_comm, Ne, ofNat_eq_lineEnd byte]
    omega
  unfold ofCode
  rw [if_neg (by omega)]
  split
  · simp only [List.mem_cons, List.not_mem_nil, or_false, not_or]
    exact ⟨other (by omega) (by omega), other (by omega) (by omega)⟩
  · split
    · simp only [List.mem_cons, List.not_mem_nil, or_false, not_or]
      exact ⟨other (by omega) (by omega), other (by omega) (by omega), other (by omega) (by omega)⟩
    · simp only [List.mem_cons, List.not_mem_nil, or_false, not_or]
      exact ⟨other (by omega) (by omega), other (by omega) (by omega), other (by omega) (by omega),
        other (by omega) (by omega)⟩

/-- Of all code points a line end alone has its byte. -/
theorem count_ofCode {n : Nat} (valid : n < 0x110000) :
    (ofCode n).count lineEnd = if n = 10 then 1 else 0 := by
  by_cases short : n < 0x80
  · rw [ofCode, if_pos short, List.count_singleton]
    have byte : n < 0x100 := by omega
    simp only [beq_iff_eq, ofNat_eq_lineEnd byte]
  · have other : n ≠ 10 := by omega
    rw [if_neg other, List.count_eq_zero]
    exact lineEnd_not_mem_ofCode (by omega) valid

theorem encodeStrict?_cons (c : Char) (t : Text) :
    encodeStrict? (.char c :: t) = (encodeStrict? t).map (ofCode c.toNat ++ ·) := by
  unfold encodeStrict? Text.chars?
  rw [List.mapM_cons]
  cases List.mapM Symbol.char? t <;> rfl

/-- The bytes of two texts in a row are those of the one in front of those of the other. -/
theorem encodeStrict?_append (a b : Text) : encodeStrict? (a ++ b) =
    (encodeStrict? a).bind fun front => (encodeStrict? b).map (front ++ ·) := by
  induction a with
  | nil =>
    show encodeStrict? b = (encodeStrict? b).map ([] ++ ·)
    simp
  | cons s a ih =>
    cases s with
    | lone offset => rfl
    | char c =>
      rw [List.cons_append, encodeStrict?_cons, encodeStrict?_cons, ih]
      cases encodeStrict? a with
      | none => rfl
      | some front => cases encodeStrict? b <;> simp

/-- Bytes have as many line ends as their text. -/
theorem count_of_encoded {t : Text} {bytes : List UInt8} (encoded : encodeStrict? t = some bytes) :
    bytes.count lineEnd = t.count NamedSignal.lineEnd := by
  induction t generalizing bytes with
  | nil =>
    cases encoded
    rfl
  | cons s t ih =>
    cases s with
    | lone offset => cases encoded
    | char c =>
      rw [encodeStrict?_cons] at encoded
      obtain ⟨later, rest, rfl⟩ := Option.map_eq_some_iff.mp encoded
      have valid : c.toNat < 0x110000 := by
        have bound := c.valid
        unfold Char.toNat
        rcases bound with low | high
        · exact Nat.lt_trans low (by decide)
        · exact high.2
      have same : c.toNat = 10 ↔ Symbol.char c = NamedSignal.lineEnd := by
        rw [NamedSignal.lineEnd, Symbol.char.injEq, ← Char.toNat_inj]
        rfl
      rw [List.count_append, ih rest, List.count_cons, count_ofCode valid, Nat.add_comm]
      simp only [same, beq_iff_eq]

end Utf8

namespace Log

/-- The lines in some bytes, each with its line end. What stands behind the last line
end is no line. -/
def linesOf : List UInt8 → List (List UInt8)
  | [] => []
  | byte :: rest =>
    if byte == Utf8.lineEnd then [byte] :: linesOf rest
    else match linesOf rest with
      | [] => []
      | first :: more => (byte :: first) :: more

theorem length_linesOf (bytes : List UInt8) :
    (linesOf bytes).length = bytes.count Utf8.lineEnd := by
  induction bytes with
  | nil => rfl
  | cons byte rest ih =>
    rw [linesOf, List.count_cons, ← ih]
    split
    · rfl
    · cases linesOf rest <;> rfl

/-- What ends in its only line end is a line. -/
theorem linesOf_append {front : List UInt8} (endless : Utf8.lineEnd ∉ front) (rest : List UInt8) :
    linesOf (front ++ [Utf8.lineEnd] ++ rest) = (front ++ [Utf8.lineEnd]) :: linesOf rest := by
  induction front with
  | nil => rfl
  | cons byte front ih =>
    rw [List.mem_cons, not_or] at endless
    obtain ⟨other, later⟩ := endless
    have unequal : (byte == Utf8.lineEnd) = false := beq_eq_false_iff_ne.mpr (Ne.symm other)
    rw [List.cons_append, List.cons_append, linesOf, unequal, ih later]
    rfl

theorem linesOf_flatten {entries : List (List UInt8)}
    (single : ∀ entry ∈ entries, ∃ front, entry = front ++ [Utf8.lineEnd] ∧ Utf8.lineEnd ∉ front) :
    linesOf entries.flatten = entries := by
  induction entries with
  | nil => rfl
  | cons entry rest ih =>
    obtain ⟨first, later⟩ := List.forall_mem_cons.mp single
    obtain ⟨front, rfl, endless⟩ := first
    rw [List.flatten_cons, linesOf_append endless, ih later]

/-- The date and the time of an entry. -/
def stamp (now : Float) : Text :=
  let (date, time) := Calendar.ofEpoch (Decimal.floor now)
  Text.concat [date.toText, " ", time.toText, ".", threeFigures (milliseconds now)]

/-- What the entry of a record begins with: the time and the level. -/
def header (now : Float) (r : Record) : Text := stamp now ++ fieldMark ++ levelField r ++ fieldMark

/-- What the entry of a record has between its header and its message. -/
def origin (r : Record) : Text := r.logger.padTo 30 ++ fieldMark ++ r.function.padTo 20 ++ fieldMark

theorem fileLine_eq (now : Float) (r : Record) :
    fileLine now r = header now r ++ origin r ++ r.message ++ [NamedSignal.lineEnd] := by
  simp [fileLine, line, Text.joinWith, header, origin, stamp, List.intercalate, lineEnd]

/-- The header of an entry and what follows it fit on a line if the origin does. -/
theorem header_inline (now : Float) (r : Record) : (header now r).isInline = true := by
  simp [header, stamp, fieldMark, Text.ofString]

section Entry

variable {now : Float} {r : Record} {bytes : List UInt8} (entered : lineBytes? now r = some bytes)

include entered

/-- An entry begins with its header. -/
theorem header_of_entry :
    ∃ first, Utf8.encodeStrict? (header now r) = some first ∧ first <+: bytes := by
  rw [lineBytes?, fileLine_eq, List.append_assoc, List.append_assoc,
    Utf8.encodeStrict?_append] at entered
  obtain ⟨first, encoded, rest⟩ := Option.bind_eq_some_iff.mp entered
  obtain ⟨more, -, rfl⟩ := Option.map_eq_some_iff.mp rest
  exact ⟨first, encoded, List.prefix_append ..⟩

/-- An entry ends in a line end, and has those of its message in front of it. -/
theorem entry_eq {text : Text} (carries : r.Carries text) :
    ∃ front, bytes = front ++ [Utf8.lineEnd] ∧
      front.count Utf8.lineEnd = r.message.count lineEnd := by
  rw [lineBytes?, fileLine_eq, Utf8.encodeStrict?_append] at entered
  obtain ⟨front, encoded, rest⟩ := Option.bind_eq_some_iff.mp entered
  obtain ⟨last, ended, rfl⟩ := Option.map_eq_some_iff.mp rest
  cases ended
  refine ⟨front, rfl, ?_⟩
  have originInline : (origin r).isInline = true := by
    simp [origin, carries.logger, carries.function, fieldMark, Text.ofString]
  rw [Utf8.count_of_encoded encoded, List.count_append, List.count_append,
    Text.count_lineEnd_of_inline (header_inline now r), Text.count_lineEnd_of_inline originInline,
    Nat.zero_add]

end Entry

section Written

variable {now : Float} {records : List Record}
  (framed : ∀ r ∈ records, ∃ text, r.Carries text)

theorem mem_written {entry : Record × List UInt8} (member : entry ∈ written now records) :
    entry.1 ∈ records ∧ lineBytes? now entry.1 = some entry.2 := by
  obtain ⟨r, within, made⟩ := List.mem_filterMap.mp member
  obtain ⟨bytes, entered, rfl⟩ := Option.map_eq_some_iff.mp made
  exact ⟨within, entered⟩

theorem mem_written_of_mem {r : Record} {bytes : List UInt8} (member : r ∈ records)
    (entered : lineBytes? now r = some bytes) : (r, bytes) ∈ written now records :=
  List.mem_filterMap.mpr ⟨r, member, by rw [entered]; rfl⟩

include framed

/-- What is written has a line for each record, and one more for each line end in a
message. -/
theorem length_lines_written : (linesOf ((written now records).flatMap (·.2))).length =
    (written now records).length +
      ((written now records).map fun entry => entry.1.message.count lineEnd).sum := by
  rw [length_linesOf]
  have each : ∀ entry ∈ written now records,
      entry.2.count Utf8.lineEnd = entry.1.message.count lineEnd + 1 := by
    intro entry member
    obtain ⟨within, entered⟩ := mem_written member
    obtain ⟨text, carries⟩ := framed _ within
    obtain ⟨front, whole, count⟩ := entry_eq entered carries
    rw [whole, List.count_append, count]
    rfl
  clear framed
  generalize written now records = entries at each
  induction entries with
  | nil => rfl
  | cons entry rest ih =>
    obtain ⟨first, later⟩ := List.forall_mem_cons.mp each
    rw [List.flatMap_cons, List.count_append, ih later, first, List.map_cons, List.sum_cons,
      List.length_cons]
    omega

/-- If no message has a line end the lines are the entries. -/
theorem lines_written (endless : ∀ entry ∈ written now records, lineEnd ∉ entry.1.message) :
    linesOf ((written now records).flatMap (·.2)) = (written now records).map (·.2) := by
  rw [List.flatMap_def]
  refine linesOf_flatten fun bytes member => ?_
  obtain ⟨entry, within, rfl⟩ := List.mem_map.mp member
  obtain ⟨recorded, entered⟩ := mem_written within
  obtain ⟨text, carries⟩ := framed _ recorded
  obtain ⟨front, whole, count⟩ := entry_eq entered carries
  refine ⟨front, whole, List.count_eq_zero.mp ?_⟩
  rw [count, List.count_eq_zero.mpr (endless entry within)]

theorem length_lines_written_iff :
    (linesOf ((written now records).flatMap (·.2))).length = (written now records).length ↔
      ∀ entry ∈ written now records, lineEnd ∉ entry.1.message := by
  rw [length_lines_written framed, Nat.add_eq_left, List.sum_eq_zero_iff]
  simp only [List.mem_map, forall_exists_index, and_imp, forall_apply_eq_imp_iff₂,
    List.count_eq_zero]

end Written

end Log

namespace Program

section Call

variable {state : State} {line : List Text} {plan : Plan} (host : Host) (environment : Environment)

/-- The messages that are written have no line end exactly if no unquoted text has one
that is well formed. -/
theorem endless_iff {file : Text} (reaches : Reaches state line plan)
    (fresh : state.book.isSetUp = false) (asked : plan.logFile = some (.word file)) :
    (∀ entry ∈ Log.written state.book.now (recordsOf state host environment line plan),
        lineEnd ∉ entry.1.message) ↔
      ∀ text ∈ unquoted state host environment line plan file,
        text.isWellFormed = true → lineEnd ∉ text := by
  have carried := carries_unquoted host environment reaches fresh asked
  have carrier := unquoted_carried host environment reaches fresh asked
  constructor
  · intro endless text member formed
    obtain ⟨record, within, carries⟩ := carrier text member
    have entered := Log.lineBytes?_isSome state.book.now record
    rw [carries.isWellFormed_eq, formed] at entered
    obtain ⟨bytes, entered⟩ := Option.isSome_iff_exists.mp entered
    have written := Log.mem_written_of_mem within entered
    rw [← List.count_eq_zero, ← carries.count_lineEnd, List.count_eq_zero]
    exact endless _ written
  · intro plain entry member
    obtain ⟨within, entered⟩ := Log.mem_written member
    obtain ⟨text, outside, carries⟩ := carried _ within
    have formed : Text.isWellFormed text = true := by
      rw [← carries.isWellFormed_eq, ← Log.lineBytes?_isSome state.book.now, entered]
      rfl
    rw [← List.count_eq_zero, carries.count_lineEnd, List.count_eq_zero]
    rcases List.mem_cons.mp outside with rfl | unquoted
    · exact List.not_mem_nil
    · exact plain text unquoted formed

theorem recordsOf_framed {file : Text} (reaches : Reaches state line plan)
    (fresh : state.book.isSetUp = false) (asked : plan.logFile = some (.word file)) :
    ∀ record ∈ recordsOf state host environment line plan, ∃ text, record.Carries text := by
  intro record member
  obtain ⟨text, -, carries⟩ := carries_unquoted host environment reaches fresh asked record member
  exact ⟨text, carries⟩

/-- There are as many lines as records exactly if no unquoted text has a line end. -/
theorem length_lines_iff {file : Text} (reaches : Reaches state line plan)
    (fresh : state.book.isSetUp = false) (asked : plan.logFile = some (.word file)) :
    let written := Log.written state.book.now (recordsOf state host environment line plan)
    (Log.linesOf (written.flatMap (·.2))).length = written.length ↔
      ∀ text ∈ unquoted state host environment line plan file,
        text.isWellFormed = true → lineEnd ∉ text := by
  have framed := recordsOf_framed host environment reaches fresh asked
  exact (Log.length_lines_written_iff framed).trans
    (endless_iff host environment reaches fresh asked)

/-- One record, one line, as far as no text from outside brings a line end of its own.
The log file of a first call holds what it held, and behind that an entry for each record
whose texts are well formed. An entry begins with the time and the level of its record,
and ends in a line end; besides, it has those of the message. So there are as many lines
as entries exactly if no unquoted text that is well formed has a line end, and then the
lines are the entries. -/
theorem lines_are_records {file : Text} (reaches : Reaches state line plan)
    (fresh : state.book.isSetUp = false) (asked : plan.logFile = some (.word file)) :
    let after := (call state host environment line).2.book
    let written := Log.written state.book.now (recordsOf state host environment line plan)
    let appended := written.flatMap (·.2)
    let plain := ∀ text ∈ unquoted state host environment line plan file,
      text.isWellFormed = true → lineEnd ∉ text
    (∃ place, state.book.logPlace? (some file) = some place ∧
      after.handlers = [.console plan.level, .file place] ∧ after.workspace.file? place =
        some ((state.book.workspace.file? place).getD [] ++ appended)) ∧
    (∀ entry ∈ written, ∃ header, Utf8.encodeStrict? (Log.header state.book.now entry.1) =
      some header ∧ header <+: entry.2) ∧
    (Log.linesOf appended).length =
      written.length + (written.map fun entry => entry.1.message.count lineEnd).sum ∧
    ((Log.linesOf appended).length = written.length ↔ plain) ∧
    (plain → Log.linesOf appended = written.map (·.2)) := by
  intro after written appended plain
  have framed := recordsOf_framed host environment reaches fresh asked
  refine ⟨file_of_reaches host environment reaches fresh asked, ?_, Log.length_lines_written framed,
    length_lines_iff host environment reaches fresh asked, ?_⟩
  · intro entry member
    exact Log.header_of_entry (Log.mem_written member).2
  · intro isPlain
    exact Log.lines_written framed ((endless_iff host environment reaches fresh asked).mpr isPlain)

end Call

/-- A call whose texts from outside have no line end leaves a line for each record. -/
theorem plain_call_lines :
    let line : List Text := ["w", "TERM", "--proc-root", "/p", "--ignore-vanished",
      "--log-file", "log"]
    let plan : Plan := ⟨"w", 15, some (.word "/p"), .info, some (.word "log"), true⟩
    let written := Log.written freshState.book.now
      (recordsOf freshState Proc.Pass.crowdedHost (fun _ => none) line plan)
    Reaches freshState line plan ∧
      Log.linesOf (written.flatMap (·.2)) = written.map (·.2) := by
  intro line plan written
  have reaches : Reaches freshState line plan := ⟨rfl, rfl, by decide +kernel⟩
  have plain : ∀ text ∈ unquoted freshState Proc.Pass.crowdedHost (fun _ => none) line plan "log",
      Text.isWellFormed text = true → lineEnd ∉ text := by decide +kernel
  obtain ⟨-, -, -, -, same⟩ :=
    lines_are_records Proc.Pass.crowdedHost (fun _ => none) reaches rfl rfl
  exact ⟨reaches, same plain⟩

/-- A name with a line end. -/
def splitName : Text := [.char 'a', lineEnd, .char 'b']

/-- A host with one process that has given itself that name, longer than the recorded
one may be. -/
def splitNameHost : Host where
  listing path := if path == "/p" then .ok ["12"] else .error .notFound
  content path :=
    if path == "/p/12/status" then .bytes (Utf8.encode "Name:\taverylongproces\n")
    else .bytes (Utf8.encode splitName)
  fault _ := none

/-- A delivery to a process whose name has a line end leaves more lines than records, so
not every call leaves a line for each record. -/
theorem split_name_forges_line :
    let line : List Text := [splitName, "TERM", "--proc-root", "/p", "--log-file", "log"]
    let plan : Plan := ⟨splitName, 15, some (.word "/p"), .info, some (.word "log"), false⟩
    let deliveries := (call freshState splitNameHost (fun _ => none) line).1.events.filterMap
      Event.delivery?
    let written := Log.written freshState.book.now
      (recordsOf freshState splitNameHost (fun _ => none) line plan)
    (Reaches freshState line plan ∧ deliveries = [(12, 15)] ∧
      (Log.linesOf (written.flatMap (·.2))).length ≠ written.length) ∧
    ¬ ∀ (state : State) (host : Host) (environment : Environment) (line : List Text) (plan : Plan)
      (file : Text), Reaches state line plan → state.book.isSetUp = false →
      plan.logFile = some (.word file) →
      let written := Log.written state.book.now (recordsOf state host environment line plan)
      (Log.linesOf (written.flatMap (·.2))).length = written.length := by
  intro line plan deliveries written
  have reaches : Reaches freshState line plan := ⟨rfl, rfl, by decide +kernel⟩
  have fresh : freshState.book.isSetUp = false := rfl
  have asked : plan.logFile = some (.word "log") := rfl
  have sent : deliveries = [(12, 15)] := by decide +kernel
  have outside : splitName ∈ unquoted freshState splitNameHost (fun _ => none) line plan "log" := by
    simp only [deliveries] at sent
    simp [unquoted, sent, plan]
  have more : (Log.linesOf (written.flatMap (·.2))).length ≠ written.length := by
    intro same
    have plain := (length_lines_iff splitNameHost (fun _ => none) reaches fresh asked).mp same
    exact plain splitName outside (by decide) (by decide)
  refine ⟨⟨reaches, sent, more⟩, fun all => more ?_⟩
  exact all freshState splitNameHost (fun _ => none) line plan "log" reaches fresh asked

end Program
end NamedSignal
