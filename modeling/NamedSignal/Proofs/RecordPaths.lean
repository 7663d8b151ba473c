import Mathlib.Data.List.Basic
import NamedSignal.Proc.Source

/-!
Where records are. The path of a record is the root, the number of the process and
the name of the record, a slash between each two; only an empty root and a root that
ends in a slash take none behind them. Neither a number nor the name of a record has
a slash of its own, so nothing in them starts the path anew.
-/
namespace NamedSignal

namespace Text

theorem ofInt_ne_nil (n : Int) : ofInt n ≠ [] := by
  cases n with
  | ofNat n => simp [ofInt, ofNat, Nat.toDigits_ne_nil]
  | negSucc n => simp [ofInt]

/-- A natural number is written in digits. -/
theorem isDigit_of_mem_ofNat {c : Char} {n : Nat} (member : .char c ∈ ofNat n) :
    c.isDigit = true := by
  obtain ⟨digit, written, same⟩ := List.mem_map.mp member
  cases same
  exact Nat.isDigit_of_mem_toDigits (by decide) (by decide) written

/-- Digits and a sign are no slash. -/
theorem slash_not_mem_ofInt (n : Int) : Path.slash ∉ ofInt n := by
  have digits (n : Nat) : Path.slash ∉ ofNat n := fun member =>
    absurd (isDigit_of_mem_ofNat member) (by decide)
  cases n with
  | ofNat n => exact digits n
  | negSucc n =>
    rw [ofInt, List.mem_cons, not_or]
    exact ⟨by decide, digits (n + 1)⟩

theorem ofNat_inj {n m : Nat} (same : ofNat n = ofNat m) : n = m := by
  have digits : Nat.toDigits 10 n = Nat.toDigits 10 m :=
    List.map_injective_iff.mpr Symbol.char_injective same
  have values := congrArg (fun digits => Nat.ofDigitChars 10 digits 0) digits
  rwa [Nat.ofDigitChars_ten_toDigits, Nat.ofDigitChars_ten_toDigits] at values

/-- No two integers are written alike; only the negative ones begin with a sign. -/
theorem ofInt_inj {n m : Int} (same : ofInt n = ofInt m) : n = m := by
  have unsigned (n : Nat) (rest : Text) : ofNat n ≠ .char '-' :: rest := fun signed =>
    absurd (isDigit_of_mem_ofNat (signed ▸ List.mem_cons_self)) (by decide)
  cases n with
  | ofNat n =>
    cases m with
    | ofNat m => exact congrArg Int.ofNat (ofNat_inj same)
    | negSucc m => exact absurd same (unsigned _ _)
  | negSucc n =>
    cases m with
    | ofNat m => exact absurd same.symm (unsigned _ _)
    | negSucc m =>
      have digits := ofNat_inj (List.cons.inj same).2
      exact congrArg Int.negSucc (Nat.succ.inj digits)

end Text

/-- A place under a root. One slash stands between the two, unless the root is
empty or brings its own. -/
def Path.beneath (root place : Text) : Text :=
  if root.isEmpty || root.getLast? == some slash then root ++ place else root ++ slash :: place

namespace Path

theorem joinPart_relative {root part : Text} (relative : slash ∉ part) :
    joinPart root part = beneath root part := by
  have plain : (part.head? == some slash) = false := by
    refine beq_eq_false_iff_ne.mpr fun absolute => relative ?_
    exact List.mem_of_head? absolute
  simp [joinPart, beneath, plain]

theorem beneath_append (root place more : Text) :
    beneath root (place ++ more) = beneath root place ++ more := by
  unfold beneath
  split <;> simp

theorem prefix_beneath (root place : Text) : root <+: beneath root place := by
  unfold beneath
  split
  · exact List.prefix_append ..
  · exact List.prefix_append ..

/-- What is put under a root ends as it does alone. -/
theorem getLast?_beneath {root place : Text} (given : place ≠ []) :
    (beneath root place).getLast? = place.getLast? := by
  have last := List.getLast?_eq_some_getLast given
  unfold beneath
  split
  · rw [List.getLast?_append, last, Option.some_or]
  · rw [List.getLast?_append, List.getLast?_cons, last, Option.some_or, Option.getD_some]

end Path

namespace Proc

namespace Source

/-- Where a record of a process is: under the root its number, a slash and its name. -/
def placeOf (source : Source) (pid : Int) (record : Text) : Text :=
  Path.beneath source.root (Text.ofInt pid ++ Path.slash :: record)

/-- Records in one place are records of one process with one name: neither the number nor
the name has a slash, so the one between them stands where the other's does. -/
theorem placeOf_inj {source : Source} {pid other : Int} {record second : Text}
    (relative : Path.slash ∉ record)
    (same : source.placeOf pid record = source.placeOf other second) :
    pid = other ∧ record = second := by
  have rooted (place : Text) :
      Path.beneath source.root place = Path.beneath source.root [] ++ place :=
    Path.beneath_append source.root [] place
  have parts : Text.ofInt pid ++ Path.slash :: record = Text.ofInt other ++ Path.slash :: second :=
    List.append_cancel_left ((rooted _).symm.trans (same.trans (rooted _)))
  obtain ⟨number, -, name⟩ := (List.append_cons_inj_of_notMem
    (Text.slash_not_mem_ofInt pid) relative).mp parts
  exact ⟨Text.ofInt_inj number, name⟩

/-- The parts of a record's path are put behind the root without starting it anew. -/
theorem recordPath_eq_placeOf (source : Source) (pid : Int) {record : Text}
    (relative : Path.slash ∉ record) :
    source.recordPath pid record = source.placeOf pid record := by
  have number := Text.ofInt_ne_nil pid
  have digits := Text.slash_not_mem_ofInt pid
  have unended : ((Path.beneath source.root (Text.ofInt pid)).getLast? == some Path.slash) =
      false := by
    rw [Path.getLast?_beneath number]
    exact beq_eq_false_iff_ne.mpr fun ends => digits (List.mem_of_getLast? ends)
  have given : (Path.beneath source.root (Text.ofInt pid)).isEmpty = false := by
    unfold Path.beneath
    split <;> simp [number]
  calc source.recordPath pid record
      = Path.beneath (Path.beneath source.root (Text.ofInt pid)) record := by
        rw [← Path.joinPart_relative digits, ← Path.joinPart_relative relative]
        rfl
    _ = Path.beneath source.root (Text.ofInt pid) ++ Path.slash :: record := by
        rw [Path.beneath, given, unended]
        rfl
    _ = source.placeOf pid record := (Path.beneath_append ..).symm

end Source
end Proc
end NamedSignal
