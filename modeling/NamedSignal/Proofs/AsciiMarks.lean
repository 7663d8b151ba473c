import Mathlib.Data.List.DropRight
import NamedSignal.Proofs.Decoding

/-!
Cutting and trimming text at ASCII characters. An ASCII byte is a character of its own
wherever it stands, so bytes can be cut at it before they are read or after, and ends
made of such bytes can be dropped before or after.
-/
namespace NamedSignal

/-- The character that an ASCII byte is. -/
def Symbol.ofAscii (a : UInt8) : Symbol := .char (Char.ofNat a.toNat)

namespace Utf8

variable {a : UInt8} {front rest bytes : List UInt8}

/-- No character goes on with an ASCII byte. -/
theorem not_severed_ascii (ascii : ∀ a ∈ rest.head?, a < 0x80) : ¬ Severed front rest := by
  intro severed
  obtain ⟨b, more, rfl, tail⟩ := severed.isTail
  have short : b.toNat < 0x80 := UInt8.lt_iff_toNat_lt.mp (ascii b rfl)
  exact absurd ((isTail_iff b).mp tail).1 (Nat.not_le.mpr short)

theorem decode_cons_ascii (ascii : a < 0x80) (rest : List UInt8) :
    decode (a :: rest) = .ofAscii a :: decode rest :=
  (Form.one (UInt8.lt_iff_toNat_lt.mp ascii)).decode_append rest

/-- Bytes read the same in front of an ASCII byte and behind it. -/
theorem decode_append_ascii (ascii : a < 0x80) (front rest : List UInt8) :
    decode (front ++ a :: rest) = decode front ++ .ofAscii a :: decode rest := by
  have apart : ¬ Severed front (a :: rest) := not_severed_ascii (by simpa using ascii)
  rw [decode_append apart, decode_cons_ascii ascii]

theorem ofSymbol_ofAscii (ascii : a < 0x80) : ofSymbol (.ofAscii a) = [a] := by
  have whole := encode_decode [a]
  rwa [decode_cons_ascii ascii, decode_nil, encode_cons, encode_nil, List.append_nil] at whole

/-- An ASCII character is in a text exactly if its byte is in the bytes. -/
theorem ofAscii_mem_decode (ascii : a < 0x80) : .ofAscii a ∈ decode bytes ↔ a ∈ bytes := by
  constructor
  · intro member
    rw [← encode_decode bytes]
    refine List.mem_flatMap.mpr ⟨_, member, ?_⟩
    rw [ofSymbol_ofAscii ascii]
    exact List.mem_singleton_self a
  · intro member
    obtain ⟨front, rest, rfl⟩ := List.append_of_mem member
    rw [decode_append_ascii ascii]
    simp

/-- Pieces between ASCII bytes read as the pieces between their characters. -/
theorem splitOn_decode (ascii : a < 0x80) (bytes : List UInt8) :
    (decode bytes).splitOn (.ofAscii a) = (bytes.splitOn a).map decode := by
  by_cases member : a ∈ bytes
  · obtain ⟨front, rest, rfl, absent⟩ := List.eq_append_cons_of_mem member
    have unread : .ofAscii a ∉ decode front := mt (ofAscii_mem_decode ascii).mp absent
    rw [decode_append_ascii ascii, List.splitOn_append_cons_self_of_not_mem unread,
      List.splitOn_append_cons_self_of_not_mem absent, List.map_cons, splitOn_decode ascii rest]
  · have unread : .ofAscii a ∉ decode bytes := mt (ofAscii_mem_decode ascii).mp member
    rw [List.splitOn_eq_singleton unread, List.splitOn_eq_singleton member]
    rfl
termination_by bytes.length
decreasing_by
  rename_i split
  rw [split, List.length_append, List.length_cons]
  omega

/-- The symbols that are marked are the ASCII characters of the bytes that are. -/
structure Marks (p : Symbol → Bool) (q : UInt8 → Bool) : Prop where
  ascii : ∀ a, q a = true → a < 0x80
  symbols : ∀ s, p s = true ↔ ∃ a, q a = true ∧ s = .ofAscii a

theorem Marks.of_byte (ascii : a < 0x80) : Marks (· == .ofAscii a) (· == a) := by
  constructor
  · intro b same
    rwa [beq_iff_eq.mp same]
  · intro s
    simp

section Trim

variable {p : Symbol → Bool} {q : UInt8 → Bool} (marks : Marks p q)

include marks

/-- Dropping what is marked in front leaves bytes that read as what is left of the text. -/
theorem dropWhile_decode (bytes : List UInt8) :
    (decode bytes).dropWhile p = decode (bytes.dropWhile q) := by
  induction bytes with
  | nil => simp
  | cons a rest ih =>
    cases marked : q a with
    | true =>
      have read := (marks.symbols _).mpr ⟨a, marked, rfl⟩
      rw [decode_cons_ascii (marks.ascii a marked), List.dropWhile_cons_of_pos read,
        List.dropWhile_cons_of_pos marked, ih]
    | false =>
      rw [List.dropWhile_cons_of_neg (by simp [marked])]
      cases read : decode (a :: rest) with
      | nil => rfl
      | cons s text =>
        refine List.dropWhile_cons_of_neg fun first => ?_
        -- The byte of a marked symbol would be the first one.
        obtain ⟨b, byte, rfl⟩ := (marks.symbols s).mp first
        have whole := encode_decode (a :: rest)
        rw [read, encode_cons, ofSymbol_ofAscii (marks.ascii b byte)] at whole
        cases whole
        rw [marked] at byte
        cases byte

/-- And so does dropping what is marked at the end. -/
theorem trimEnd_decode (bytes : List UInt8) :
    (decode bytes).trimEnd p = decode (bytes.rdropWhile q) := by
  show (decode bytes).rdropWhile p = _
  induction bytes using List.reverseRecOn with
  | nil => simp
  | append_singleton front a ih =>
    cases marked : q a with
    | true =>
      have read := (marks.symbols _).mpr ⟨a, marked, rfl⟩
      rw [decode_append_ascii (marks.ascii a marked), decode_nil,
        List.rdropWhile_concat_pos _ _ _ read, List.rdropWhile_concat_pos _ _ _ marked, ih]
    | false =>
      rw [List.rdropWhile_concat_neg _ _ _ (by simp [marked])]
      obtain empty | ⟨text, s, read⟩ := List.eq_nil_or_concat' (decode (front ++ [a]))
      · rw [empty]
        rfl
      · rw [read]
        refine List.rdropWhile_concat_neg _ _ _ fun last => ?_
        obtain ⟨b, byte, rfl⟩ := (marks.symbols s).mp last
        have whole := encode_decode (front ++ [a])
        rw [read, encode_append, encode_cons, ofSymbol_ofAscii (marks.ascii b byte)] at whole
        obtain ⟨-, same⟩ := List.append_inj' whole rfl
        cases same
        rw [marked] at byte
        cases byte

theorem trim_decode (bytes : List UInt8) :
    (decode bytes).trim p = decode ((bytes.dropWhile q).rdropWhile q) := by
  rw [Text.trim, dropWhile_decode marks, trimEnd_decode marks]

end Trim

end Utf8
end NamedSignal
