import NamedSignal.Proofs.Roll
import NamedSignal.Signal

/-!
The words that stand for signals. A word of plain digits is meant for their number, and a
word that is the name of a signal in capitals, its first three letters given or not, for
the number of that signal; no word means both. More is taken than is meant: the digits of
other scripts count as well, and so do the few letters outside ASCII that have capitals in
it. And a numeral that is too long is turned away as no numeral.
-/
namespace NamedSignal

namespace Symbol

/-- A letter of ASCII made a capital; all else stays. -/
def capital : Symbol → Symbol
  | char c => char c.toUpper
  | lone offset => lone offset

theorem isDigit_of_plain {s : Symbol} (plain : s.isPlainDigit = true) : s.isDigit = true := by
  simp [isDigit, decimal?_of_plain plain]

/-- All digits of ASCII are plain. -/
theorem plain_of_ascii_digit {s : Symbol} (ascii : s.code < 0x80) (digit : s.isDigit = true) :
    s.isPlainDigit = true := by
  have others : ∀ range ∈ DecimalDigit.otherRanges, 0x80 ≤ range.1 := by decide
  rw [isDigit, Bool.or_eq_true, List.any_eq_true] at digit
  rcases digit with decimal | ⟨range, listed, within⟩
  · rw [← ascii_decimal_eq_isPlainDigit]
    simp [decimal, ascii]
  · have high := others range listed
    simp only [Bool.and_eq_true, decide_eq_true_eq] at within
    omega

theorem capital_of_plain {s : Symbol} (plain : s.isPlainDigit = true) : s.capital = s := by
  cases s with
  | lone offset => rfl
  | char c =>
    have coded : Symbol.code (.char c) = c.val.toNat := rfl
    rw [isPlainDigit_iff, coded] at plain
    have first : 'a'.val.toNat = 0x61 := rfl
    have below : ¬ ('a'.val ≤ c.val ∧ c.val ≤ 'z'.val) := by
      rw [UInt32.le_iff_toNat_le, first]
      omega
    exact congrArg char (dif_neg below)

/-- Capitals in ASCII are those of ASCII letters. -/
theorem ascii_of_capital {s : Symbol} (ascii : s.capital.code < 0x80) : s.code < 0x80 := by
  cases s with
  | lone offset => exact ascii
  | char c =>
    by_cases small : 'a'.val ≤ c.val ∧ c.val ≤ 'z'.val
    · have last : 'z'.val.toNat = 0x7A := rfl
      have within := small.2
      rw [UInt32.le_iff_toNat_le, last] at within
      have coded : Symbol.code (.char c) = c.val.toNat := rfl
      omega
    · have same : c.toUpper = c := dif_neg small
      simpa only [capital, same] using ascii

end Symbol

namespace Text

theorem capitals?_char (c : Char) (rest : Text) : capitals? (.char c :: rest) =
    (capital? c).bind fun form => (capitals? rest).map (form ++ ·) := by
  unfold capitals? chars?
  simp only [List.mapM_cons, Symbol.char?]
  cases List.mapM Symbol.char? rest with
  | none => cases capital? c <;> simp
  | some letters =>
    simp only [Option.bind_eq_bind, Option.bind_some, Option.pure_def, List.mapM_cons]
    cases capital? c <;> cases List.mapM capital? letters <;> simp

theorem capitals?_lone (offset : Fin 0x800) (rest : Text) :
    capitals? (.lone offset :: rest) = none := by
  unfold capitals? chars?
  simp [List.mapM_cons, Symbol.char?]

theorem isAscii_iff {word : Text} : word.isAscii = true ↔ ∀ s ∈ word, s.code < 0x80 := by
  simp [isAscii]

theorem capital?_of_ascii {c : Char} (ascii : c.toNat < 0x80) : capital? c = some [c.toUpper] := by
  unfold capital?
  exact if_pos ascii

/-- In ASCII the capital form is that of each letter. -/
theorem capitals?_of_ascii {word : Text} (ascii : ∀ s ∈ word, s.code < 0x80) :
    ∃ letters, word.capitals? = some letters ∧ word.map Symbol.capital = letters.map .char := by
  induction word with
  | nil => exact ⟨[], rfl, rfl⟩
  | cons s rest ih =>
    obtain ⟨here, behind⟩ := List.forall_mem_cons.mp ascii
    obtain ⟨letters, found, same⟩ := ih behind
    cases s with
    | lone offset =>
      have high : Symbol.code (.lone offset) = 0xD800 + offset.val := rfl
      omega
    | char c =>
      refine ⟨c.toUpper :: letters, ?_, ?_⟩
      · rw [capitals?_char, capital?_of_ascii here, found]
        rfl
      · rw [List.map_cons, same]
        rfl

/-- No digit outside ASCII has capitals in it. -/
theorem plain_of_capital? {c : Char} {form : List Char} (digit : Symbol.isDigit (.char c) = true)
    (formed : capital? c = some form) : Symbol.isPlainDigit (.char c) = true := by
  have coded : Symbol.code (.char c) = c.toNat := rfl
  by_cases ascii : c.toNat < 0x80
  · exact Symbol.plain_of_ascii_digit ascii digit
  · exfalso
    unfold capital? at formed
    rw [if_neg ascii] at formed
    unfold Symbol.isDigit Symbol.decimal? at digit
    rw [coded] at digit
    generalize c.toNat = code at digit formed
    split at formed
    case h_11 => cases formed
    all_goals exact absurd digit (by decide)

/-- A word of digits that has an ASCII capital form is a word of plain ones. -/
theorem plain_of_capitals? {word : Text} {letters : List Char}
    (digits : ∀ s ∈ word, s.isDigit = true) (formed : word.capitals? = some letters) :
    ∀ s ∈ word, s.isPlainDigit = true := by
  induction word generalizing letters with
  | nil => exact fun s member => absurd member List.not_mem_nil
  | cons first rest ih =>
    obtain ⟨here, behind⟩ := List.forall_mem_cons.mp digits
    cases first with
    | lone offset =>
      rw [capitals?_lone] at formed
      cases formed
    | char c =>
      rw [capitals?_char, Option.bind_eq_some_iff] at formed
      obtain ⟨form, found, others⟩ := formed
      obtain ⟨letters, below, -⟩ := Option.map_eq_some_iff.mp others
      exact List.forall_mem_cons.mpr ⟨plain_of_capital? here found, ih behind below⟩

end Text

namespace Signal

section
variable {α : Type} [DecidableEq α]

/-- Letters with a stem in front of them if they do not begin with it. -/
def inFull (stem letters : List α) : List α :=
  if stem <+: letters then letters else stem ++ letters

theorem mem_inFull {stem letters : List α} {letter : α} (member : letter ∈ letters) :
    letter ∈ inFull stem letters := by
  by_cases begun : stem <+: letters
  · simpa only [inFull, if_pos begun] using member
  · simpa only [inFull, if_neg begun] using List.mem_append_right stem member

theorem inFull_map {β : Type} [DecidableEq β] {f : α → β} (injective : Function.Injective f)
    (stem letters : List α) : inFull (stem.map f) (letters.map f) = (inFull stem letters).map f := by
  unfold inFull
  by_cases begun : stem <+: letters
  · rw [if_pos begun, if_pos (begun.map f)]
  · have apart : ¬ stem.map f <+: letters.map f :=
      mt (List.prefix_map_iff_of_injective injective).mp begun
    rw [if_neg begun, if_neg apart, List.map_append]

end

/-- What a word spells: its capitals, the first three letters of every name given or not. -/
def spelled (word : Text) : Text := inFull (Text.ofString "SIG") (word.map Symbol.capital)

/-- What a word is meant for. -/
inductive Means (word : Text) : Int → Prop
  /-- Plain digits are a number. -/
  | number (numeral : Proc.isNumeral word = true) : Means word (Proc.numberOf word)
  /-- A name is the number of its signal. -/
  | name {name : String} {n : Int} (listed : (name, n) ∈ names)
      (same : spelled word = Text.ofString name) : Means word n

/-- The word is taken for what it means, and is unknown if it means nothing. -/
structure TakenAsMeant (word : Text) : Prop where
  taken : ∀ n, parse word = .ok n ↔ Means word n
  refused : (∀ n, ¬ Means word n) → parse word = .error (.unknown word)

/-- The words that are taken for more than they mean, or for less. -/
inductive Misread (word : Text) : Prop
  /-- Digits, and not all of them plain. -/
  | digits (given : word ≠ []) (all : ∀ s ∈ word, s.isDigit = true) {other : Symbol}
      (member : other ∈ word) (foreign : other.isPlainDigit = false)
  /-- More plain digits than are read. -/
  | long (numeral : Proc.isNumeral word = true) (long : Numeral.maxDigits < word.length)
  /-- Letters outside ASCII with capitals that make a name. -/
  | letters (foreign : word.isAscii = false) {capitals : List Char} {name : String} {n : Int}
      (formed : word.capitals? = some capitals) (listed : (name, n) ∈ names)
      (same : inFull "SIG".toList capitals = name.toList)

/-- Each name has one number. -/
theorem names_functional : ∀ one ∈ names, ∀ other ∈ names, one.1 = other.1 → one = other := by
  decide +kernel

theorem names_ascii : ∀ entry ∈ names, ∀ c ∈ entry.1.toList, c.toNat < 0x80 := by
  have checked : (names.all fun entry => entry.1.toList.all fun c => c.toNat < 0x80) = true := by
    decide +kernel
  simpa only [List.all_eq_true, decide_eq_true_eq] using checked

/-- Behind its first three letters no name goes on with a digit. -/
theorem names_no_digit : ∀ entry ∈ names, ∀ c ∈ entry.1.toList[3]?,
    Symbol.isPlainDigit (.char c) = false := by
  have checked : (names.all fun entry => entry.1.toList[3]?.all fun c =>
      !Symbol.isPlainDigit (.char c)) = true := by decide +kernel
  intro entry listed c fourth
  have here := List.all_eq_true.mp checked entry listed
  rw [Option.mem_def.mp fourth] at here
  simpa using here

theorem numberOfName?_eq_some_iff {letters : List Char} {n : Int} :
    numberOfName? letters = some n ↔
      ∃ name, (name, n) ∈ names ∧ inFull "SIG".toList letters = name.toList := by
  unfold numberOfName? inFull
  simp only [Option.map_eq_some_iff, List.isPrefixOf_iff_prefix]
  generalize (if "SIG".toList <+: letters then letters else "SIG".toList ++ letters) = full
  constructor
  · rintro ⟨⟨name, number⟩, found, rfl⟩
    have spelling : name.toList = full := by simpa using List.find?_some found
    exact ⟨name, List.mem_of_find?_eq_some found, spelling.symm⟩
  · rintro ⟨name, listed, rfl⟩
    cases found : names.find? fun entry => entry.1.toList == name.toList with
    | none => exact absurd (List.find?_eq_none.mp found _ listed) (by simp)
    | some entry =>
      have spelling : entry.1.toList = name.toList := by simpa using List.find?_some found
      have alike : entry.1 = name := String.toList_injective spelling
      rw [names_functional entry (List.mem_of_find?_eq_some found) _ listed alike]
      exact ⟨_, rfl, rfl⟩

/-- Only ASCII spells a name. -/
theorem ascii_of_spelled {word : Text} {entry : String × Int} (listed : entry ∈ names)
    (same : spelled word = Text.ofString entry.1) : word.isAscii = true := by
  refine Text.isAscii_iff.mpr fun s member => Symbol.ascii_of_capital ?_
  have within : s.capital ∈ Text.ofString entry.1 := same ▸ mem_inFull (List.mem_map_of_mem member)
  obtain ⟨c, written, capital⟩ := List.mem_map.mp within
  rw [← capital]
  exact names_ascii entry listed c written

/-- In ASCII a word is looked up by the name it spells. -/
theorem spelled_iff {word : Text} (ascii : word.isAscii = true) {n : Int} :
    (∃ name, (name, n) ∈ names ∧ spelled word = Text.ofString name) ↔
      word.capitals?.bind numberOfName? = some n := by
  obtain ⟨letters, found, capitals⟩ := Text.capitals?_of_ascii (Text.isAscii_iff.mp ascii)
  have spelling : ∀ name, spelled word = Text.ofString name ↔
      inFull "SIG".toList letters = name.toList := by
    intro name
    rw [spelled, capitals, Text.ofString, inFull_map Symbol.char_injective]
    exact (List.map_injective_iff.mpr Symbol.char_injective).eq_iff
  simp only [spelling, found, Option.bind_some, numberOfName?_eq_some_iff]

/-- No numeral spells a name. -/
theorem not_spelled_of_numeral {word : Text} (numeral : Proc.isNumeral word = true)
    {entry : String × Int} (listed : entry ∈ names) : spelled word ≠ Text.ofString entry.1 := by
  obtain ⟨given, plain⟩ := Bool.and_eq_true_iff.mp numeral
  cases word with
  | nil => cases given
  | cons first rest =>
    obtain ⟨here, behind⟩ := List.forall_mem_cons.mp (List.all_eq_true.mp plain)
    have capitals : (first :: rest).map Symbol.capital = first :: rest :=
      (List.map_congr_left fun s member =>
        Symbol.capital_of_plain (List.all_eq_true.mp plain s member)).trans (List.map_id _)
    have begun : ¬ Text.ofString "SIG" <+: first :: rest := by
      intro begins
      obtain ⟨letter, -⟩ := List.cons_prefix_cons.mp begins
      rw [← letter] at here
      cases here
    intro same
    rw [spelled, capitals, inFull, if_neg begun] at same
    -- Behind its first three letters the name would go on with the first digit.
    have digit : (Text.ofString entry.1)[3]? = some first := same ▸ rfl
    rw [Text.ofString, List.getElem?_map, Option.map_eq_some_iff] at digit
    obtain ⟨c, fourth, rfl⟩ := digit
    rw [names_no_digit entry listed c fourth] at here
    cases here

namespace Means

/-- What a numeral means is its number. -/
theorem iff_of_numeral {word : Text} (numeral : Proc.isNumeral word = true) {n : Int} :
    Means word n ↔ n = Proc.numberOf word := by
  constructor
  · rintro (numeral | ⟨listed, same⟩)
    · rfl
    · exact absurd same (not_spelled_of_numeral numeral listed)
  · rintro rfl
    exact .number numeral

/-- What any other word means is what its name stands for. -/
theorem iff_of_other {word : Text} (other : Proc.isNumeral word = false) {n : Int} :
    Means word n ↔ ∃ name, (name, n) ∈ names ∧ spelled word = Text.ofString name := by
  constructor
  · rintro (numeral | ⟨listed, same⟩)
    · rw [other] at numeral
      cases numeral
    · exact ⟨_, listed, same⟩
  · rintro ⟨name, listed, same⟩
    exact .name listed same

theorem ascii {word : Text} {n : Int} (meant : Means word n) : word.isAscii = true := by
  rcases meant with numeral | ⟨listed, same⟩
  · have plain := List.all_eq_true.mp (Bool.and_eq_true_iff.mp numeral).2
    exact Text.isAscii_iff.mpr fun s member => Symbol.ascii_of_plain (plain s member)
  · exact ascii_of_spelled listed same

end Means

/-- A word of digits is read as a number, in any script. -/
theorem parse_of_digits {word : Text} (given : word ≠ []) (digits : ∀ s ∈ word, s.isDigit = true) :
    parse word = match Numeral.decimal? word with
      | some n => .ok n
      | none => .error (.notNumeral word) := by
  unfold parse
  refine if_pos ?_
  simpa [given] using digits

/-- Any other word is looked up by its capitals. -/
theorem parse_of_other {word : Text} (other : word ≠ [] → ∃ s ∈ word, s.isDigit = false) :
    parse word = match word.capitals?.bind numberOfName? with
      | some n => .ok n
      | none => .error (.unknown word) := by
  unfold parse
  refine if_neg ?_
  simpa using other

theorem digits_of_numeral {word : Text} (numeral : Proc.isNumeral word = true) :
    word ≠ [] ∧ ∀ s ∈ word, s.isDigit = true := by
  obtain ⟨given, plain⟩ := Bool.and_eq_true_iff.mp numeral
  refine ⟨by simpa using given, fun s member => ?_⟩
  exact Symbol.isDigit_of_plain (List.all_eq_true.mp plain s member)

/-- A plain digit that is repeated too often is misread. -/
theorem Misread.repeated {count : Nat} (long : Numeral.maxDigits < count) :
    Misread (List.replicate count (.char '1')) := by
  have positive : count ≠ 0 := by
    rintro rfl
    exact absurd long (Nat.not_lt_zero _)
  exact .long (Proc.isNumeral_replicate rfl positive) (by rwa [List.length_replicate])

theorem Misread.not_taken {word : Text} (misread : Misread word) : ¬ TakenAsMeant word := by
  rintro ⟨taken, refused⟩
  cases misread with
  | digits given all member foreign =>
    have meaningless : ∀ n, ¬ Means word n := by
      intro n meant
      have ascii := Text.isAscii_iff.mp meant.ascii _ member
      rw [Symbol.plain_of_ascii_digit ascii (all _ member)] at foreign
      cases foreign
    have turned := refused meaningless
    rw [parse_of_digits given all] at turned
    cases value : Numeral.decimal? word <;> simp [value] at turned
  | long numeral long =>
    obtain ⟨given, all⟩ := digits_of_numeral numeral
    have accepted := (taken _).mpr (.number numeral)
    rw [parse_of_digits given all, Proc.decimal?_of_numeral numeral, if_pos long] at accepted
    cases accepted
  | letters foreign formed listed same =>
    have lettered : word ≠ [] → ∃ s ∈ word, s.isDigit = false := by
      intro given
      by_contra none
      have digits : ∀ s ∈ word, s.isDigit = true := by simpa using none
      have plain := Text.plain_of_capitals? digits formed
      have ascii := Text.isAscii_iff.mpr fun s member => Symbol.ascii_of_plain (plain s member)
      rw [foreign] at ascii
      cases ascii
    have accepted := parse_of_other lettered
    rw [formed, Option.bind_some, numberOfName?_eq_some_iff.mpr ⟨_, listed, same⟩] at accepted
    rw [((taken _).mp accepted).ascii] at foreign
    cases foreign

/-- A numeral that is not too long is its number. -/
theorem taken_of_numeral {word : Text} (numeral : Proc.isNumeral word = true)
    (short : ¬ Numeral.maxDigits < word.length) : TakenAsMeant word := by
  obtain ⟨given, all⟩ := digits_of_numeral numeral
  have accepted : parse word = .ok (Proc.numberOf word) := by
    rw [parse_of_digits given all, Proc.decimal?_of_numeral numeral, if_neg short]
  refine ⟨fun n => ?_, fun meaningless => absurd (.number numeral) (meaningless _)⟩
  rw [accepted, Except.ok.injEq, Means.iff_of_numeral numeral]
  exact eq_comm

/-- A word that is not all digits is its name, if no capitals are found outside ASCII. -/
theorem taken_of_other {word : Text} (other : word ≠ [] → ∃ s ∈ word, s.isDigit = false)
    (known : word.isAscii = false → word.capitals?.bind numberOfName? = none) :
    TakenAsMeant word := by
  have strange : Proc.isNumeral word = false := by
    refine Bool.eq_false_iff.mpr fun numeral => ?_
    obtain ⟨given, all⟩ := digits_of_numeral numeral
    obtain ⟨s, member, letter⟩ := other given
    rw [all s member] at letter
    cases letter
  have found_iff : ∀ n, word.capitals?.bind numberOfName? = some n ↔ Means word n := by
    intro n
    rw [Means.iff_of_other strange]
    cases ascii : word.isAscii with
    | true => exact (spelled_iff ascii).symm
    | false =>
      refine ⟨fun named => ?_, fun ⟨name, listed, same⟩ => ?_⟩
      · rw [known ascii] at named
        cases named
      · rw [ascii_of_spelled listed same] at ascii
        cases ascii
  refine ⟨fun n => ?_, fun meaningless => ?_⟩
  · rw [parse_of_other other, ← found_iff]
    cases word.capitals?.bind numberOfName? <;> simp
  · have unnamed : word.capitals?.bind numberOfName? = none :=
      Option.eq_none_iff_forall_ne_some.mpr fun n named => meaningless n ((found_iff n).mp named)
    rw [parse_of_other other, unnamed]

/-- A word is taken for what it means unless it is one of those misread. -/
theorem parse_as_meant_iff (word : Text) : TakenAsMeant word ↔ ¬ Misread word := by
  refine ⟨fun meant misread => misread.not_taken meant, fun clear => ?_⟩
  by_cases other : word ≠ [] → ∃ s ∈ word, s.isDigit = false
  · refine taken_of_other other fun foreign => ?_
    by_contra named
    obtain ⟨n, found⟩ := Option.ne_none_iff_exists'.mp named
    obtain ⟨capitals, formed, looked⟩ := Option.bind_eq_some_iff.mp found
    obtain ⟨name, listed, same⟩ := numberOfName?_eq_some_iff.mp looked
    exact clear (.letters foreign formed listed same)
  · have ⟨given, all⟩ : word ≠ [] ∧ ∀ s ∈ word, s.isDigit = true := by simpa using other
    have plain : ∀ s ∈ word, s.isPlainDigit = true := by
      intro s member
      by_contra foreign
      exact clear (.digits given all member (Bool.eq_false_iff.mpr foreign))
    have numeral : Proc.isNumeral word = true := by simpa [Proc.isNumeral, given] using plain
    exact taken_of_numeral numeral fun long => clear (.long numeral long)

/-- A superscript two has no value, the digits of another script have one, a long s is an S
in capitals, and a number can have too many digits. -/
theorem foreign_words_misread :
    (parse "²" = .error (.notNumeral "²") ∧ ¬ TakenAsMeant "²") ∧
    (parse "١٥" = .ok 15 ∧ ¬ TakenAsMeant "١٥") ∧
    (parse "ſigterm" = .ok 15 ∧ ¬ TakenAsMeant "ſigterm") ∧
    ¬ TakenAsMeant (List.replicate 4301 (.char '1')) := by
  refine ⟨⟨by decide +kernel, Misread.not_taken ?_⟩, ⟨by decide +kernel, Misread.not_taken ?_⟩,
    ⟨by decide +kernel, Misread.not_taken ?_⟩, Misread.not_taken ?_⟩
  · exact .digits (by decide) (by decide +kernel) (List.mem_singleton_self _) (by decide +kernel)
  · exact .digits (by decide) (by decide +kernel) List.mem_cons_self (by decide +kernel)
  · refine @Misread.letters _ (by decide) "SIGTERM".toList "SIGTERM" 15 ?_ ?_ ?_
    all_goals decide +kernel
  · exact .repeated (by decide)

end Signal
end NamedSignal
