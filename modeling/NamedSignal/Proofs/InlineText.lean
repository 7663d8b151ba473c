import NamedSignal.Proofs.FileGrowth
import NamedSignal.Failure
import NamedSignal.Timer

/-!
Texts that fit on a line of a file. Such a text is well formed and has no line end.
Numbers, dates, times and levels are such texts, the sentences and names of errors are,
and so is everything between quotes, whatever is quoted.
-/
namespace NamedSignal

/-- The symbol at the end of a line. -/
def lineEnd : Symbol := .char '\n'

namespace Text

/-- The text is well formed and has no line end. -/
def isInline (t : Text) : Bool := t.all fun s => s.char?.any (· != '\n')

theorem isInline_iff {t : Text} : t.isInline = true ↔ t.isWellFormed = true ∧ lineEnd ∉ t := by
  have fits (s : Symbol) :
      s.char?.any (· != '\n') = true ↔ s.char?.isSome = true ∧ lineEnd ≠ s := by
    cases s with
    | char c => simpa [Symbol.char?, lineEnd] using ne_comm
    | lone offset => simp [Symbol.char?]
  simp only [isInline, isWellFormed, List.all_eq_true]
  constructor
  · intro inline
    refine ⟨fun s member => ((fits s).mp (inline s member)).1, fun member => ?_⟩
    exact ((fits lineEnd).mp (inline _ member)).2 rfl
  · rintro ⟨formed, endless⟩ s member
    exact (fits s).mpr ⟨formed s member, fun same => endless (same ▸ member)⟩

theorem count_lineEnd_of_inline {t : Text} (inline : t.isInline = true) : t.count lineEnd = 0 :=
  List.count_eq_zero.mpr (isInline_iff.mp inline).2

@[simp] theorem isInline_nil : isInline [] = true := rfl

@[simp] theorem isInline_append (a b : Text) :
    (a ++ b).isInline = (a.isInline && b.isInline) := List.all_append

@[simp] theorem isInline_chars (chars : List Char) :
    isInline (chars.map .char) = chars.all (· != '\n') := List.all_map

@[simp] theorem isInline_cons_char (c : Char) (t : Text) :
    isInline (.char c :: t) = (c != '\n' && t.isInline) := by
  simp [isInline, Symbol.char?]

/-- The characters of a string need not be decoded to see that there is no line end. -/
theorem isInline_ofString {s : String}
    (endless : s.toByteArray.data.toList.all (· != 10) = true) : (ofString s).isInline = true := by
  rw [ofString, isInline_chars, List.all_eq_true]
  intro c member
  rw [bne_iff_ne]
  rintro rfl
  have byte : 10 ∈ s.toByteArray.data.toList := by
    rw [← String.utf8Encode_toList, List.utf8Encode, List.data_toByteArray]
    exact List.mem_flatMap.mpr ⟨_, member, by decide⟩
  have other := List.all_eq_true.mp endless 10 byte
  simp at other

@[simp] theorem isInline_concat (parts : List Text) :
    (concat parts).isInline = parts.all isInline := List.all_flatten

@[simp] theorem isInline_padTo (width : Nat) (t : Text) :
    (t.padTo width).isInline = t.isInline := by
  simp [padTo, isInline, Symbol.char?]

/-- No digit is a line end, whatever the base. -/
theorem toDigits_inline {base : Nat} (above : 1 < base) (n : Nat) :
    (Nat.toDigits base n).all (· != '\n') = true := by
  induction n using Nat.strongRecOn with
  | ind n ih =>
    rw [Nat.toDigits_eq_if above]
    split
    · simp
    · rename_i more
      have smaller : n / base < n := Nat.div_lt_self (by omega) above
      simp [List.all_append, ih _ smaller]

/-- Nor is one among zeros and digits behind them. -/
theorem padded_inline {base : Nat} (above : 1 < base) (zeros n : Nat) :
    (List.replicate zeros '0' ++ Nat.toDigits base n).all (· != '\n') = true := by
  simp [List.all_append, toDigits_inline above]

@[simp] theorem isInline_ofNat (n : Nat) : (ofNat n).isInline = true := by
  rw [ofNat, isInline_chars]
  exact toDigits_inline (by decide) n

@[simp] theorem isInline_ofInt (n : Int) : (ofInt n).isInline = true := by
  cases n with
  | ofNat n => exact isInline_ofNat n
  | negSucc n => simp [ofInt]

/-- Surrogates are never shown as they are. -/
theorem lone_not_printable (offset : Fin 0x800) : (Symbol.lone offset).isPrintable = false := by
  have hidden : (0xD7FC, 0xF8FF) ∈ Printable.hiddenRanges := by decide +kernel
  have within :
      (0xD7FC ≤ (Symbol.lone offset).code && (Symbol.lone offset).code ≤ 0xF8FF) = true := by
    have bound := offset.isLt
    simp only [Symbol.code, Bool.and_eq_true]
    exact ⟨decide_eq_true (by omega), decide_eq_true (by omega)⟩
  rw [Symbol.isPrintable, List.any_eq_true.mpr ⟨_, hidden, within⟩, Bool.not_true]

theorem codeEscape_inline (s : Symbol) : (codeEscape s).all (· != '\n') = true := by
  have digits (width n : Nat) : (hexadecimal width n).all (· != '\n') = true :=
    padded_inline (by decide) _ n
  unfold codeEscape
  split
  · simp [digits]
  · split <;> simp [digits]

theorem quoteSymbol_inline {mark : Char} (fits : mark ≠ '\n') (s : Symbol) :
    (quoteSymbol mark s).isInline = true := by
  unfold quoteSymbol
  split
  · rename_i escaped
    simp only [Bool.or_eq_true, beq_iff_eq] at escaped
    obtain rfl | rfl := escaped
    · simp [fits]
    · decide
  · split
    · decide
    · split
      · decide
      · rename_i noEnd
        split
        · decide
        · split
          -- What is shown as it is is no surrogate, and line ends are escaped before.
          · rename_i printable
            cases s with
            | char c =>
              have other : c ≠ '\n' := fun same => noEnd (by simp [same])
              simp [other]
            | lone offset => simp [lone_not_printable] at printable
          · rw [isInline_chars, codeEscape_inline]

/-- What stands between quotes fits on a line. -/
@[simp] theorem isInline_quoted (t : Text) : t.quoted.isInline = true := by
  have fits : t.quoteMark ≠ '\n' := by
    unfold quoteMark
    split <;> decide
  have inside : isInline (t.flatMap (quoteSymbol t.quoteMark)) = true := by
    rw [isInline, List.all_flatMap]
    exact List.all_eq_true.mpr fun s _ => quoteSymbol_inline fits s
  simp [quoted, fits, inside]

end Text

namespace Decimal

theorem isInline_withPoint (places units : Nat) : (withPoint places units).isInline = true := by
  have filled (zeros : Nat) :
      ∀ c ∈ List.replicate zeros '0' ++ Nat.toDigits 10 units, (c != '\n') = true :=
    List.all_eq_true.mp (Text.padded_inline (by decide) zeros units)
  rw [withPoint, Text.isInline_chars, List.all_eq_true]
  intro c member
  rcases List.mem_append.mp member with front | back
  · exact filled _ c (List.mem_of_mem_take front)
  · rcases List.mem_cons.mp back with rfl | digit
    · decide
    · exact filled _ c (List.mem_of_mem_drop digit)

@[simp] theorem isInline_fixed (places : Nat) (x : Float) : (fixed places x).isInline = true := by
  unfold fixed
  split
  · decide
  · split <;> decide
  · rw [Text.isInline_append, isInline_withPoint, Bool.and_true]
    split <;> rfl

end Decimal

namespace Errno

@[simp] theorem isInline_sentence (e : Errno) : e.sentence.isInline = true := by
  have rows : ∀ row ∈ table, (row.2.2.toByteArray.data.toList).all (· != 10) = true := by
    decide +kernel
  unfold sentence
  split
  · rename_i row found
    exact Text.isInline_ofString (rows row (List.mem_of_find?_eq_some found))
  · simp [Text.ofString]

end Errno

@[simp] theorem isInline_failureKind (failure : Failure) :
    (failureKind failure).isInline = true := by
  cases failure with
  | host errno path =>
    simp only [failureKind, Failure.kind, Errno.kind]
    split <;> decide
  | _ => simp [failureKind, Failure.kind, Text.ofString]

namespace Calendar

@[simp] theorem isInline_zeroPadded (width n : Nat) : (zeroPadded width n).isInline = true := by
  rw [zeroPadded, Text.isInline_chars]
  exact Text.padded_inline (by decide) _ n

@[simp] theorem isInline_date (d : Date) : d.toText.isInline = true := by
  simp [Date.toText, Text.ofString]

@[simp] theorem isInline_time (t : TimeOfDay) : t.toText.isInline = true := by
  simp [TimeOfDay.toText, Text.ofString]

end Calendar

namespace Log

@[simp] theorem isInline_threeFigures (n : Int) : (threeFigures n).isInline = true := by
  unfold threeFigures
  split <;> simp

@[simp] theorem isInline_levelField (r : Record) : (levelField r).isInline = true := by
  rw [levelField, Text.isInline_padTo]
  unfold Level.name
  split
  all_goals first | decide | simp [Text.ofString]

end Log

end NamedSignal
