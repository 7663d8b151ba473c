import NamedSignal.Proc.Records
import NamedSignal.Proofs.AsciiMarks

/-!
Arguments and the record they are kept in. A record with a NUL behind each argument is
read as just these arguments, empty ones included. Of any other record nothing is lost
either: put together again with a NUL between each two, what is read from it is the
record without the NUL at its end.
-/
namespace NamedSignal.Proc.Arguments

/-- The record of arguments: each with a NUL behind it. -/
def record (arguments : List (List UInt8)) : List UInt8 :=
  arguments.flatMap fun argument => argument ++ [0]

/-- A record without the NUL at its end, where there is one. -/
def unended (content : List UInt8) : List UInt8 :=
  if content.getLast? = some 0 then content.dropLast else content

theorem unended_concat (content : List UInt8) : unended (content ++ [0]) = content := by
  rw [unended, List.getLast?_concat, if_pos rfl, List.dropLast_concat]

/-- A record is its arguments with a NUL between each two, and one more at the end. -/
theorem record_eq_intercalate {arguments : List (List UInt8)} (given : arguments ≠ []) :
    record arguments = [0].intercalate arguments ++ [0] := by
  induction arguments with
  | nil => exact absurd rfl given
  | cons argument rest ih =>
    rw [record, List.flatMap_cons, ← record]
    cases rest with
    | nil => simp [record]
    | cons next rest =>
      rw [ih (List.cons_ne_nil next rest), List.intercalate_cons_cons]
      simp only [List.append_assoc]

section Pieces

variable {content : List UInt8}

theorem pieces_of_ne_nil (given : content ≠ []) : pieces content = (unended content).splitOn 0 := by
  have filled : content.isEmpty = false := List.isEmpty_eq_false_iff.mpr given
  simp only [pieces, filled, Bool.false_eq_true, ↓reduceIte, beq_iff_eq, unended]

/-- Only the empty record has no pieces. -/
theorem pieces_eq_nil_iff : pieces content = [] ↔ content = [] := by
  constructor
  · intro none_left
    refine Decidable.byContradiction fun given => ?_
    rw [pieces_of_ne_nil given] at none_left
    exact List.splitOn_ne_nil 0 _ none_left
  · rintro rfl
    rfl

/-- A piece between separators holds none. -/
private theorem not_mem_of_mem_splitOn {α : Type} [BEq α] [LawfulBEq α] {separator : α}
    {items piece : List α} (member : piece ∈ items.splitOn separator) : separator ∉ piece := by
  induction items generalizing piece with
  | nil =>
    obtain rfl := List.mem_singleton.mp member
    exact List.not_mem_nil
  | cons item rest ih =>
    rw [List.splitOn_cons_eq_if_modifyHead] at member
    split at member
    · obtain rfl | later := List.mem_cons.mp member
      · exact List.not_mem_nil
      · exact ih later
    · rename_i other
      cases split : rest.splitOn separator with
      | nil => exact absurd split (List.splitOn_ne_nil separator rest)
      | cons first pieces =>
        rw [split] at ih member
        obtain rfl | later := List.mem_cons.mp member
        · rw [List.mem_cons, not_or]
          exact ⟨fun same => other (beq_iff_eq.mpr same.symm), ih List.mem_cons_self⟩
        · exact ih (List.mem_cons_of_mem first later)

theorem nul_not_mem_piece {piece : List UInt8} (member : piece ∈ pieces content) : 0 ∉ piece := by
  have given : content ≠ [] := by
    rintro rfl
    exact List.not_mem_nil member
  rw [pieces_of_ne_nil given] at member
  exact not_mem_of_mem_splitOn member

/-- With NULs between them the pieces are the record without the NUL at its end. -/
theorem intercalate_pieces (given : content ≠ []) :
    [0].intercalate (pieces content) = unended content := by
  rw [pieces_of_ne_nil given, List.intercalate_splitOn]

/-- The pieces of a record are the arguments it was made of. -/
theorem pieces_record {arguments : List (List UInt8)}
    (free : ∀ argument ∈ arguments, 0 ∉ argument) : pieces (record arguments) = arguments := by
  cases arguments with
  | nil => rfl
  | cons argument rest =>
    have some_arguments := List.cons_ne_nil argument rest
    have whole := record_eq_intercalate some_arguments
    have given : record (argument :: rest) ≠ [] := by
      rw [whole]
      exact List.append_ne_nil_of_right_ne_nil _ (List.cons_ne_nil 0 [])
    rw [pieces_of_ne_nil given, whole, unended_concat,
      List.splitOn_intercalate 0 free some_arguments]

/-- The bytes of what is read are those that were read. -/
theorem encode_parse (content : List UInt8) : (parse content).map Utf8.encode = pieces content := by
  have back : Utf8.encode ∘ Utf8.decode = id := funext Utf8.encode_decode
  rw [parse, List.map_map, back, List.map_id]

end Pieces

/-- Arguments and their record each determine the other. Arguments without NULs are read
back from their record, and their bytes make it up again. The arguments of any record hold
all of its bytes but the NULs, and those stood between them or at the end; only the empty
record has no arguments. -/
theorem arguments_and_record_inverse :
    (∀ arguments : List (List UInt8), (∀ argument ∈ arguments, 0 ∉ argument) →
      parse (record arguments) = arguments.map Utf8.decode ∧
      (parse (record arguments)).map Utf8.encode = arguments ∧
      record ((parse (record arguments)).map Utf8.encode) = record arguments) ∧
    ∀ content : List UInt8,
      (content ≠ [] → [0].intercalate ((parse content).map Utf8.encode) = unended content) ∧
      (∀ argument ∈ parse content, .char '\x00' ∉ argument ∧ 0 ∉ Utf8.encode argument) ∧
      (parse content = [] ↔ content = []) := by
  constructor
  · intro arguments free
    have back := pieces_record free
    rw [encode_parse, parse, back]
    exact ⟨rfl, rfl, rfl⟩
  · intro content
    refine ⟨?_, ?_, ?_⟩
    · intro given
      rw [encode_parse, intercalate_pieces given]
    · intro argument member
      obtain ⟨piece, within, rfl⟩ := List.mem_map.mp member
      have free := nul_not_mem_piece within
      have nul : Symbol.char '\x00' = .ofAscii 0 := by decide
      rw [nul, Utf8.ofAscii_mem_decode (by decide), Utf8.encode_decode]
      exact ⟨free, free⟩
    · rw [parse, List.map_eq_nil_iff, pieces_eq_nil_iff]

/-- Empty arguments and bytes that are no text are read back, and of two NULs at the end
of a record one is kept. -/
theorem odd_arguments_read_back :
    let arguments : List (List UInt8) := [[], [0x61, 0xFF], []]
    (∀ argument ∈ arguments, 0 ∉ argument) ∧
    parse [0, 0x61, 0xFF, 0, 0] = [[], [.char 'a', .stray 0xFF], []] ∧
    [0].intercalate ((parse [0x61, 0, 0]).map Utf8.encode) = [0x61, 0] := by
  intro arguments
  have free : ∀ argument ∈ arguments, 0 ∉ argument := by decide
  obtain ⟨written, kept⟩ := arguments_and_record_inverse
  have read := (written arguments free).1
  have joined := (kept [0x61, 0, 0]).1 (by decide)
  refine ⟨free, read.trans ?_, joined⟩
  decide +kernel

end NamedSignal.Proc.Arguments
