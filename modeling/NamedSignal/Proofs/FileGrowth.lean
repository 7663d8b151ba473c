import Mathlib.Data.List.Basic
import NamedSignal.Program
import NamedSignal.Proofs.Traces

/-!
How the log file grows. Opening a file changes no content, and a record that
comes in puts its line at the end of the file if the line is well formed, that
is, if the logger, the function and the message hold scalar values only; any
other record leaves no trace there.
-/
namespace NamedSignal

/-- The text holds scalar values only. -/
def Text.isWellFormed (t : Text) : Bool := t.all (·.char?.isSome)

namespace Text

@[simp] theorem isWellFormed_nil : isWellFormed [] = true := rfl

@[simp] theorem isWellFormed_append (a b : Text) :
    (a ++ b).isWellFormed = (a.isWellFormed && b.isWellFormed) := List.all_append

@[simp] theorem isWellFormed_chars (chars : List Char) : isWellFormed (chars.map .char) = true := by
  simp [isWellFormed, Symbol.char?]

@[simp] theorem isWellFormed_cons_char (c : Char) (t : Text) :
    isWellFormed (.char c :: t) = t.isWellFormed := by
  simp [isWellFormed, Symbol.char?]

@[simp] theorem isWellFormed_ofString (s : String) : (ofString s).isWellFormed = true :=
  isWellFormed_chars _

@[simp] theorem isWellFormed_concat (parts : List Text) :
    (concat parts).isWellFormed = parts.all isWellFormed := List.all_flatten

theorem isWellFormed_joinWith {separator : Text} (plain : separator.isWellFormed = true)
    (parts : List Text) : (joinWith separator parts).isWellFormed = parts.all isWellFormed := by
  unfold joinWith
  induction parts with
  | nil => rfl
  | cons part rest ih =>
    cases rest with
    | nil => simp [List.intercalate]
    | cons next rest =>
      rw [List.intercalate_cons_cons]
      simp [plain, ih]

@[simp] theorem isWellFormed_padTo (width : Nat) (t : Text) :
    (t.padTo width).isWellFormed = t.isWellFormed := by
  simp [padTo, isWellFormed, Symbol.char?]

@[simp] theorem isWellFormed_ofInt (n : Int) : (ofInt n).isWellFormed = true := by
  cases n <;> simp [ofInt, ofNat]

/-- Exactly the well-formed texts have strict bytes. -/
theorem encodeStrict?_isSome (t : Text) : (Utf8.encodeStrict? t).isSome = t.isWellFormed := by
  simp only [Utf8.encodeStrict?, chars?, Option.isSome_map]
  induction t with
  | nil => rfl
  | cons s t ih =>
    cases s with
    | lone offset => rfl
    | char c =>
      rw [isWellFormed_cons_char, ← ih, List.mapM_cons]
      cases List.mapM Symbol.char? t <;> rfl

end Text

namespace Calendar

@[simp] theorem isWellFormed_zeroPadded (width n : Nat) :
    (zeroPadded width n).isWellFormed = true := Text.isWellFormed_chars _

@[simp] theorem isWellFormed_date (d : Date) : d.toText.isWellFormed = true := by
  simp [Date.toText]

@[simp] theorem isWellFormed_time (t : TimeOfDay) : t.toText.isWellFormed = true := by
  simp [TimeOfDay.toText]

end Calendar

namespace Workspace

private theorem lookup_map_same {files : List (Place × List UInt8)} {place : Place}
    (bytes : List UInt8) (present : files.any (·.1 == place) = true) :
    (files.map fun file => if file.1 == place then (file.1, file.2 ++ bytes) else file).lookup place =
      some ((files.lookup place).getD [] ++ bytes) := by
  induction files with
  | nil => cases present
  | cons file rest ih =>
    obtain ⟨name, content⟩ := file
    by_cases same : name = place
    · simp [same]
    · have later : rest.any (·.1 == place) = true := by simpa [same] using present
      have other : (place == name) = false := by simpa using Ne.symm same
      simpa [same, List.lookup_cons, other] using ih later

/-- Bytes that are put into a file stand at its end. -/
theorem file?_append (w : Workspace) (place : Place) (bytes : List UInt8) :
    (w.append place bytes).file? place = some ((w.file? place).getD [] ++ bytes) := by
  unfold append file?
  split
  · rename_i present
    exact lookup_map_same bytes present
  · rename_i absent
    have missing : w.files.lookup place = none := by
      refine List.lookup_eq_none_iff.mpr fun file member => ?_
      rw [bne_iff_ne]
      rintro rfl
      exact absent (List.any_eq_true.mpr ⟨file, member, beq_self_eq_true _⟩)
    simp [List.lookup_append, missing]

private theorem lookup_map_other {files : List (Place × List UInt8)} {place other : Place}
    (bytes : List UInt8) (apart : other ≠ place) :
    (files.map fun file =>
      if file.1 == place then (file.1, file.2 ++ bytes) else file).lookup other =
      files.lookup other := by
  induction files with
  | nil => rfl
  | cons file rest ih =>
    obtain ⟨name, content⟩ := file
    rw [List.map_cons]
    by_cases same : name = place
    · have unequal : (other == name) = false := beq_eq_false_iff_ne.mpr (same ▸ apart)
      rw [if_pos (beq_iff_eq.mpr same), List.lookup_cons, List.lookup_cons, unequal]
      exact ih
    · rw [if_neg (by simpa using same), List.lookup_cons, List.lookup_cons, ih]

/-- Bytes that are put into a file leave the other files alone. -/
theorem file?_append_other (w : Workspace) {place other : Place} (bytes : List UInt8)
    (apart : other ≠ place) : (w.append place bytes).file? other = w.file? other := by
  unfold append file?
  split
  · exact lookup_map_other bytes apart
  · have unequal : (other == place) = false := beq_eq_false_iff_ne.mpr apart
    simp [List.lookup_append, List.lookup_cons, unequal]

theorem makeDirectory_files {w made : Workspace} {path : Path.Normal}
    (done : w.makeDirectory path = .ok made) : made.files = w.files := by
  obtain ⟨place, -, rest⟩ := values_of_bind done
  split at rest
  · cases rest
  · cases rest
    rfl

theorem assureDirectory_files {w made : Workspace} {path : Path.Normal}
    (assured : w.assureDirectory path = .ok made) : made.files = w.files := by
  unfold assureDirectory at assured
  split at assured
  · rename_i done
    cases assured
    exact makeDirectory_files done
  · split at assured
    · cases assured
      rfl
    · cases assured

/-- Making directories changes no file. -/
theorem assureDirectories_files (w : Workspace) (path : Path.Normal) :
    (w.assureDirectories path).2.files = w.files := by
  -- The directory is assured at once or cannot be; or the one above it comes first,
  -- and that cannot be, or is and the directory behind it is assured or not.
  fun_induction assureDirectories w path with
  | case1 path made assured => exact assureDirectory_files assured
  | case2 path errno failed final => rfl
  | case3 path errno failed lower refusal above stopped ih => simpa [stopped] using ih
  | case4 path errno failed lower above made last assured ih =>
    rw [made] at ih
    exact (assureDirectory_files assured).trans ih
  | case5 path errno failed lower above made again refused ih => simpa [made] using ih

/-- Opening a file puts nothing into it. -/
theorem openAppend_eq {w later : Workspace} {path : Path.Normal} {place : Place}
    (opened : w.openAppend path = .ok (place, later)) : later = w.append place [] := by
  obtain ⟨above, -, walked⟩ := values_of_bind opened
  cases last : path.components.getLast? with
  | none => simp [last] at walked
  | some component =>
    simp only [last] at walked
    obtain ⟨found, -, reached⟩ := values_of_bind walked
    split at reached
    · cases reached
    · cases reached
      rfl

end Workspace

namespace Log

@[simp] theorem isWellFormed_line (fields : List Text) :
    (line fields).isWellFormed = fields.all Text.isWellFormed := by
  simp [line, Text.isWellFormed_joinWith, fieldMark]

@[simp] theorem isWellFormed_threeFigures (n : Int) : (threeFigures n).isWellFormed = true := by
  unfold threeFigures
  split <;> simp

@[simp] theorem isWellFormed_levelField (r : Record) : (levelField r).isWellFormed = true := by
  unfold levelField Level.name
  split <;> simp

/-- All texts of the record are well formed. -/
def Record.isWellFormed (r : Record) : Bool :=
  r.logger.isWellFormed && r.function.isWellFormed && r.message.isWellFormed

/-- A record has a well-formed line exactly if its own texts are well formed. -/
theorem lineBytes?_isSome (now : Float) (r : Record) : (lineBytes? now r).isSome = r.isWellFormed := by
  simp [lineBytes?, Text.encodeStrict?_isSome, fileLine, Record.isWellFormed, Bool.and_assoc]

/-- What records leave behind in a file: those with a well-formed line, and the
bytes of that. -/
def written (now : Float) (records : List Record) : List (Record × List UInt8) :=
  records.filterMap fun r => (lineBytes? now r).map (r, ·)

theorem written_cons (now : Float) (r : Record) (rest : List Record) :
    written now (r :: rest) = ((lineBytes? now r).map (r, ·)).toList ++ written now rest := by
  rw [written, List.filterMap_cons]
  cases lineBytes? now r <;> rfl

/-- Well-formed records are written, and no others. -/
theorem written_records (now : Float) (records : List Record) :
    (written now records).map (·.1) = records.filter (·.isWellFormed) := by
  induction records with
  | nil => rfl
  | cons r rest ih =>
    rw [written_cons, List.map_append, ih, List.filter_cons, ← lineBytes?_isSome now r]
    cases lineBytes? now r <;> rfl

theorem written_bytes (now : Float) (records : List Record) :
    (written now records).map (·.2) = records.filterMap (lineBytes? now) := by
  rw [written, List.map_filterMap]
  refine List.filterMap_congr fun r _ => ?_
  cases lineBytes? now r <;> rfl

section OpenFile

variable {workspace : Workspace} {path : Path.Normal}

/-- A file is opened behind its directories where its path leads. -/
theorem openFile_inv {place : Place} {later : Workspace}
    (opened : openFile workspace path = (.ok place, later)) :
    ∃ made, workspace.assureDirectories path.parent = (.ok (), made) ∧
      made.openAppend (made.absolute path) = .ok (place, later) ∧
      later = made.append place [] := by
  unfold openFile at opened
  cases first : componentFault? path.components.dropLast with
  | some fault => simp [first] at opened
  | none =>
    simp only [first] at opened
    cases assured : workspace.assureDirectories path.parent with
    | mk result made =>
      rw [assured] at opened
      cases result with
      | error refusal => simp at opened
      | ok done =>
        cases second : componentFault? path.components with
        | some fault => simp [second] at opened
        | none =>
          simp only [second] at opened
          cases found : made.openAppend (made.absolute path) with
          | error errno => simp [found] at opened
          | ok entry =>
            obtain ⟨reached, after⟩ := entry
            simp only [found, Prod.mk.injEq, Except.ok.injEq] at opened
            obtain ⟨rfl, rfl⟩ := opened
            exact ⟨made, rfl, found, Workspace.openAppend_eq found⟩

/-- A file that cannot be opened changes directories at most. -/
theorem openFile_fails {fault : SetUpFault} {later : Workspace}
    (failed : openFile workspace path = (.error fault, later)) :
    later.files = workspace.files := by
  have files := workspace.assureDirectories_files path.parent
  unfold openFile at failed
  cases first : componentFault? path.components.dropLast with
  | some fault =>
    simp only [first, Prod.mk.injEq] at failed
    rw [failed.2]
  | none =>
    simp only [first] at failed
    cases assured : workspace.assureDirectories path.parent with
    | mk result made =>
      rw [assured] at failed files
      have same : made = later := by
        cases result with
        | error refusal => exact congrArg Prod.snd failed
        | ok done =>
          cases second : componentFault? path.components with
          | some fault =>
            simp only [second] at failed
            exact congrArg Prod.snd failed
          | none =>
            simp only [second] at failed
            cases found : made.openAppend (made.absolute path) with
            | error errno =>
              rw [found] at failed
              exact congrArg Prod.snd failed
            | ok entry => simp [found] at failed
      exact same ▸ files

/-- A file that is opened keeps what it holds, and begins empty if it is new. Other files
stay as they are. -/
theorem openFile_file? {place : Place} {later : Workspace}
    (opened : openFile workspace path = (.ok place, later)) (other : Place) :
    later.file? other =
      if other = place then some ((workspace.file? place).getD []) else workspace.file? other := by
  obtain ⟨made, assured, -, rfl⟩ := openFile_inv opened
  have files : made.files = workspace.files := by
    simpa [assured] using workspace.assureDirectories_files path.parent
  have same (place : Place) : made.file? place = workspace.file? place := by
    simp only [Workspace.file?, files]
  split
  · rename_i here
    rw [here, Workspace.file?_append, same, List.append_nil]
  · rename_i apart
    rw [Workspace.file?_append_other _ _ apart, same]

end OpenFile

namespace Logbook

variable {book : Logbook} {level : Level} {place : Place}

/-- The bytes that a record puts into the file, if any. -/
def bytes? (book : Logbook) (r : Record) : Option (List UInt8) :=
  if r.level < book.threshold then none else lineBytes? book.now r

/-- A record changes the files and nothing else. -/
theorem enter_frame (book : Logbook) (r : Record) :
    (book.enter r).2 = { book with workspace := (book.enter r).2.workspace } := by
  unfold enter
  split <;> rfl

theorem enterAll_frame (book : Logbook) (records : List Record) :
    (book.enterAll records).2 = { book with workspace := (book.enterAll records).2.workspace } := by
  induction records generalizing book with
  | nil => rfl
  | cons r rest ih =>
    rw [enterAll, ih]
    simp only
    rw [enter_frame book r]

/-- A record puts its bytes at the end of the file. -/
theorem enter_filed {content : List UInt8} (r : Record)
    (filed : book.handlers = [.console level, .file place])
    (held : book.workspace.file? place = some content) :
    (book.enter r).2.workspace.file? place = some (content ++ (book.bytes? r).getD []) := by
  unfold enter bytes?
  split
  · simpa using held
  · simp only [filed, List.foldl_cons, List.foldl_nil, keptBy]
    cases lineBytes? book.now r with
    | none => simpa using held
    | some bytes => simp [Workspace.file?_append, held]

/-- The file holds what it held and behind that the bytes of the records, in order. -/
theorem enterAll_filed {content : List UInt8} {records : List Record}
    (filed : book.handlers = [.console level, .file place])
    (held : book.workspace.file? place = some content) :
    (book.enterAll records).2.workspace.file? place =
      some (content ++ (records.filterMap book.bytes?).flatten) := by
  -- The rest is entered into the book that the first record leaves behind.
  induction records generalizing book content with
  | nil => simpa [enterAll] using held
  | cons r rest ih =>
    have frame := enter_frame book r
    have same : (book.enter r).2.bytes? = book.bytes? := by
      rw [frame]
      rfl
    rw [enterAll, ih (by rw [frame]; exact filed) (enter_filed r filed held), same,
      List.filterMap_cons]
    cases book.bytes? r <;> simp

/-- Records that are not dropped put their entries at the end of the file, in order. -/
theorem enterAll_file {content : List UInt8} {records : List Record}
    (filed : book.handlers = [.console level, .file place])
    (loud : ∀ r ∈ records, .debug ≤ r.level)
    (held : book.workspace.file? place = some content) :
    (book.enterAll records).2.workspace.file? place =
      some (content ++ (written book.now records).flatMap (·.2)) := by
  have entry : ∀ r ∈ records, book.bytes? r = lineBytes? book.now r := by
    intro r member
    have kept : ¬ r.level < book.threshold := by
      simpa [threshold, isSetUp, filed] using loud r member
    rw [bytes?, if_neg kept]
  rw [enterAll_filed filed held, List.filterMap_congr entry, List.flatMap_def, written_bytes]

end Logbook
end Log
end NamedSignal
