import Mathlib.Data.Nat.Digits.Lemmas
import NamedSignal.Proofs.ForeignFailures

/-!
The roll of processes, entry by entry. Each entry of the root names a process or
none on its own account, and the roll holds the processes in the order of the
entries that name them. The number of a process settles how its entry is spelled
up to leading zeros, and no further: `7` and `007` name one process.
-/
namespace NamedSignal

namespace Symbol

/-- One of the ten digits of ASCII. -/
def isPlainDigit (s : Symbol) : Bool := 0x30 ≤ s.code && s.code ≤ 0x39

def plainValue (s : Symbol) : Nat := s.code - 0x30

def plainDigit (value : Nat) : Symbol := .char (Char.ofNat (0x30 + value))

theorem isPlainDigit_iff {s : Symbol} : s.isPlainDigit = true ↔ 0x30 ≤ s.code ∧ s.code ≤ 0x39 := by
  simp [isPlainDigit]

theorem ascii_of_plain {s : Symbol} (plain : s.isPlainDigit = true) : s.code < 0x80 := by
  have bounds := isPlainDigit_iff.mp plain
  omega

/-- ASCII has no decimal digits but the plain ones. -/
private theorem zero_of_ascii {s : Symbol} (ascii : s.code < 0x80) :
    DecimalDigit.zeros.find? (fun start => start ≤ s.code && s.code < start + 10) =
      if s.isPlainDigit then some 0x30 else none := by
  have others : ∀ start ∈ DecimalDigit.zeros.tail, 0x660 ≤ start := by decide +kernel
  have split : DecimalDigit.zeros = 0x30 :: DecimalDigit.zeros.tail := rfl
  rw [split, List.find?_cons]
  by_cases plain : s.isPlainDigit = true
  · have here : (0x30 ≤ s.code && s.code < 0x30 + 10) = true := by
      have bounds := isPlainDigit_iff.mp plain
      simp only [Bool.and_eq_true, decide_eq_true_eq]
      omega
    rw [here, if_pos plain]
  · have elsewhere : (0x30 ≤ s.code && s.code < 0x30 + 10) = false := by
      rw [isPlainDigit_iff] at plain
      simp only [Bool.and_eq_false_iff, decide_eq_false_iff_not]
      omega
    rw [elsewhere, if_neg plain]
    refine List.find?_eq_none.mpr fun start member found => ?_
    have beyond := others start member
    simp only [Bool.and_eq_true, decide_eq_true_eq] at found
    omega

/-- The digits that entries may have are the plain ones. -/
theorem ascii_decimal_eq_isPlainDigit (s : Symbol) :
    (s.code < 0x80 && s.decimal?.isSome) = s.isPlainDigit := by
  by_cases ascii : s.code < 0x80
  · rw [decimal?, zero_of_ascii ascii]
    cases s.isPlainDigit <;> simp [ascii]
  · have foreign : s.isPlainDigit = false := Bool.eq_false_iff.mpr (mt ascii_of_plain ascii)
    simp [ascii, foreign]

theorem decimal?_of_plain {s : Symbol} (plain : s.isPlainDigit = true) :
    s.decimal? = some s.plainValue := by
  rw [decimal?, zero_of_ascii (ascii_of_plain plain), if_pos plain]
  rfl

theorem plainValue_lt {s : Symbol} (plain : s.isPlainDigit = true) : s.plainValue < 10 := by
  have bounds := isPlainDigit_iff.mp plain
  unfold plainValue
  omega

theorem plainDigit_plainValue {s : Symbol} (plain : s.isPlainDigit = true) :
    plainDigit s.plainValue = s := by
  have bounds := isPlainDigit_iff.mp plain
  cases s with
  | char c =>
    have same : 0x30 + plainValue (.char c) = c.toNat := by
      have known : Symbol.code (.char c) = c.toNat := rfl
      unfold plainValue
      omega
    rw [plainDigit, same, Char.ofNat_toNat]
  | lone offset =>
    have high : Symbol.code (.lone offset) = 0xD800 + offset.val := rfl
    omega

end Symbol

namespace Numeral

/-- The value of digits is that of their places, the last one first. -/
theorem value_eq_ofDigits (base : Nat) (digits : List Nat) :
    value base digits = Nat.ofDigits base digits.reverse := by
  rw [Nat.ofDigits_eq_foldr, List.foldr_reverse, value]
  congr 1
  funext total digit
  exact Nat.add_comm ..

theorem value_zero_cons (base : Nat) (digits : List Nat) :
    value base (0 :: digits) = value base digits := rfl

/-- Zeros in front of digits do not count. -/
theorem value_significant (base : Nat) (digits : List Nat) :
    value base (digits.dropWhile (· == 0)) = value base digits := by
  induction digits with
  | nil => rfl
  | cons digit rest ih =>
    by_cases zero : digit = 0
    · subst zero
      rw [value_zero_cons, ← ih]
      rfl
    · rw [List.dropWhile_cons_of_neg (by simpa using zero)]

/-- The digits behind leading zeros are those of the value. -/
theorem significant_digits {digits : List Nat} (decimal : ∀ digit ∈ digits, digit < 10) :
    digits.dropWhile (· == 0) = (Nat.digits 10 (value 10 digits)).reverse := by
  -- Digits without a zero in front are the only ones of their value.
  have small : ∀ digit ∈ (digits.dropWhile (· == 0)).reverse, digit < 10 := by
    intro digit member
    exact decimal digit ((List.dropWhile_sublist _).mem (List.mem_reverse.mp member))
  have leads : ∀ left : (digits.dropWhile (· == 0)).reverse ≠ [],
      (digits.dropWhile (· == 0)).reverse.getLast left ≠ 0 := by
    intro left
    rw [List.getLast_reverse]
    have first := List.head_dropWhile_not (· == 0) (by simpa using left)
    simpa using first
  have unique := Nat.digits_ofDigits 10 (by decide) _ small leads
  rw [← value_eq_ofDigits, value_significant] at unique
  rw [unique, List.reverse_reverse]

end Numeral

namespace Proc

/-- An entry made of plain digits. -/
def isNumeral (entry : Text) : Bool := !entry.isEmpty && entry.all Symbol.isPlainDigit

/-- What is left of an entry without leading zeros. -/
def significant (entry : Text) : Text := entry.dropWhile (· == .char '0')

/-- The process an entry names, if it names one. -/
def named? (entry : Text) : Option Int :=
  match pid? entry with
  | .ok found => found
  | .error _ => none

/-- The number that the digits of an entry stand for. -/
def numberOf (entry : Text) : Nat := Numeral.value 10 (entry.map Symbol.plainValue)

private theorem mapM_decimal?_of_plain {entry : Text} (plain : entry.all Symbol.isPlainDigit = true) :
    entry.mapM Symbol.decimal? = some (entry.map Symbol.plainValue) := by
  induction entry with
  | nil => rfl
  | cons first rest ih =>
    obtain ⟨here, behind⟩ := Bool.and_eq_true_iff.mp (List.all_cons ▸ plain)
    simp [List.mapM_cons, Symbol.decimal?_of_plain here, ih behind]

private theorem all_plain (entry : Text) :
    entry.all (fun s => s.code < 0x80 && s.decimal?.isSome) = entry.all Symbol.isPlainDigit :=
  congrArg entry.all (funext Symbol.ascii_decimal_eq_isPlainDigit)

/-- An entry that is no numeral names no process. -/
theorem pid?_of_other {entry : Text} (other : isNumeral entry = false) :
    pid? entry = .ok none := by
  unfold pid?
  rw [all_plain]
  refine if_pos ?_
  simp only [isNumeral, Bool.and_eq_false_iff, Bool.not_eq_false'] at other
  rcases other with empty | strange
  · simp [empty]
  · simp [strange]

/-- A numeral that is not too long is read as its number. -/
theorem decimal?_of_numeral {entry : Text} (numeral : isNumeral entry = true) :
    Numeral.decimal? entry =
      if Numeral.maxDigits < entry.length then none else some (numberOf entry) := by
  obtain ⟨given, plain⟩ := Bool.and_eq_true_iff.mp numeral
  have some_digits : entry.isEmpty = false := by simpa using given
  rw [Numeral.decimal?, some_digits, mapM_decimal?_of_plain plain]
  simp [numberOf]

/-- A numeral that is not too long names a process if its number is one. -/
theorem pid?_of_numeral {entry : Text} (numeral : isNumeral entry = true) :
    pid? entry = if Numeral.maxDigits < entry.length then .error .numeralTooLong
      else .ok (if numberOf entry ≤ maxPid then some (numberOf entry : Int) else none) := by
  obtain ⟨given, plain⟩ := Bool.and_eq_true_iff.mp numeral
  have some_digits : entry.isEmpty = false := by simpa using given
  unfold pid?
  rw [all_plain, plain, some_digits, decimal?_of_numeral numeral]
  by_cases long : Numeral.maxDigits < entry.length
  · simp [long]
  · simp [long]

theorem isNumeral_replicate {s : Symbol} (plain : s.isPlainDigit = true) {count : Nat}
    (given : count ≠ 0) : isNumeral (List.replicate count s) = true := by
  simp [isNumeral, given, plain]

/-- The entries that cannot be read are the numerals that are too long. -/
theorem isOverlong_iff {entry : Text} :
    isOverlong entry = true ↔ isNumeral entry = true ∧ Numeral.maxDigits < entry.length := by
  have digits : isOverlong entry =
      (entry.all Symbol.isPlainDigit && decide (Numeral.maxDigits < entry.length)) := by
    rw [isOverlong, all_plain]
  rw [digits, isNumeral, Bool.and_eq_true, decide_eq_true_eq]
  constructor
  · rintro ⟨plain, long⟩
    have given : entry ≠ [] := by
      rintro rfl
      exact absurd long (Nat.not_lt_zero _)
    exact ⟨by simpa [given] using plain, long⟩
  · rintro ⟨numeral, long⟩
    exact ⟨(Bool.and_eq_true_iff.mp numeral).2, long⟩

/-- An entry that names a process is a numeral of its number. -/
theorem numeral_of_named {entry : Text} {pid : Int} (named : named? entry = some pid) :
    isNumeral entry = true ∧ pid = numberOf entry := by
  unfold named? at named
  cases numeral : isNumeral entry with
  | false =>
    rw [pid?_of_other numeral] at named
    cases named
  | true =>
    refine ⟨rfl, ?_⟩
    rw [pid?_of_numeral numeral] at named
    by_cases long : Numeral.maxDigits < entry.length
    · simp [long] at named
    · by_cases fits : numberOf entry ≤ maxPid
      · simp only [long, fits, ↓reduceIte, Option.some.injEq] at named
        exact named.symm
      · simp [long, fits] at named

/-- Among plain digits only the zero has the value 0. -/
private theorem significant_values {entry : Text} (plain : entry.all Symbol.isPlainDigit = true) :
    (significant entry).map Symbol.plainValue =
      (entry.map Symbol.plainValue).dropWhile (· == 0) := by
  induction entry with
  | nil => rfl
  | cons first rest ih =>
    obtain ⟨here, behind⟩ := Bool.and_eq_true_iff.mp (List.all_cons ▸ plain)
    have known := Symbol.plainDigit_plainValue here
    by_cases zero : first.plainValue = 0
    · rw [zero] at known
      subst known
      exact ih behind
    · have differs : (first == .char '0') = false := by
        refine beq_eq_false_iff_ne.mpr fun same => zero ?_
        subst same
        rfl
      have counts : (first.plainValue == 0) = false := beq_eq_false_iff_ne.mpr zero
      simp [significant, differs, counts]

/-- Behind its zeros an entry is spelled as the number of its process is. -/
theorem significant_of_named {entry : Text} {pid : Int} (named : named? entry = some pid) :
    significant entry = (Nat.digits 10 pid.toNat).reverse.map Symbol.plainDigit := by
  obtain ⟨numeral, rfl⟩ := numeral_of_named named
  obtain ⟨-, plain⟩ := Bool.and_eq_true_iff.mp numeral
  have each : ∀ s ∈ entry, s.isPlainDigit = true := List.all_eq_true.mp plain
  have decimal : ∀ digit ∈ entry.map Symbol.plainValue, digit < 10 := by
    intro digit member
    obtain ⟨s, within, rfl⟩ := List.mem_map.mp member
    exact Symbol.plainValue_lt (each s within)
  have kept : (significant entry).map (Symbol.plainDigit ∘ Symbol.plainValue) =
      significant entry := by
    refine (List.map_congr_left fun s within => ?_).trans (List.map_id _)
    exact Symbol.plainDigit_plainValue (each s ((List.dropWhile_sublist _).mem within))
  calc significant entry
      = ((significant entry).map Symbol.plainValue).map Symbol.plainDigit := by
        rw [List.map_map, kept]
    _ = (Nat.digits 10 (numberOf entry)).reverse.map Symbol.plainDigit := by
        rw [significant_values plain, Numeral.significant_digits decimal, numberOf]

namespace Source

/-- Entries that can be read name the processes on the roll one by one. -/
theorem pids_ok_iff {entries : List Text} {found : List Int} :
    pids entries = .ok found ↔
      (∀ entry ∈ entries, isOverlong entry = false) ∧ found = entries.filterMap named? := by
  have read : ∀ found, pids entries = .ok found → found = entries.filterMap named? := by
    induction entries with
    | nil =>
      rintro found ⟨⟩
      rfl
    | cons entry rest ih =>
      intro found read
      simp only [pids, bind, Except.bind, pure, Except.pure] at read
      cases here : pid? entry with
      | error failure => simp [here] at read
      | ok pid =>
        cases behind : pids rest with
        | error failure => simp [here, behind] at read
        | ok others =>
          simp only [here, behind, Except.ok.injEq] at read
          have named : named? entry = pid := by simp [named?, here]
          rw [← read, ih others behind, List.filterMap_cons, named]
          cases pid <;> rfl
  constructor
  · intro given
    refine ⟨fun entry member => ?_, read found given⟩
    cases long : isOverlong entry with
    | false => rfl
    | true =>
      rw [(pids_error_iff entries .numeralTooLong).mpr ⟨⟨entry, member, long⟩, rfl⟩] at given
      cases given
  · rintro ⟨short, rfl⟩
    cases given : pids entries with
    | ok found => rw [read found given]
    | error failure =>
      obtain ⟨⟨entry, member, long⟩, -⟩ := (pids_error_iff entries failure).mp given
      rw [short entry member] at long
      cases long

end Source

end Proc
end NamedSignal
