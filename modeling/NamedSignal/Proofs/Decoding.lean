import Mathlib.Tactic.Convert
import NamedSignal.Text.Bytes

/-!
What decoding keeps of bytes. The forms that UTF-8 has for characters are read, and
nothing else is; a byte outside all of them stands for itself, so no byte is lost.
Bytes that are cut in two read as they do in one piece, unless the cut falls inside a
character.
-/
namespace NamedSignal.Utf8

theorem isTail_iff (b : UInt8) : isTail b = true ↔ 0x80 ≤ b.toNat ∧ b.toNat ≤ 0xBF := by
  simp [isTail, UInt8.le_iff_toNat_le]

/-- The bytes that UTF-8 has for a scalar value, told by the number they carry: no
overlong form, no surrogate and nothing beyond Unicode. -/
inductive Form : Nat → List UInt8 → Prop where
  | one {a : UInt8} (short : a.toNat < 0x80) : Form a.toNat [a]
  | two {a b : UInt8} (lead : 0xC2 ≤ a.toNat ∧ a.toNat ≤ 0xDF) (second : isTail b = true) :
      Form ((a.toNat - 0xC0) * 64 + low b) [a, b]
  | three {a b c : UInt8} (lead : 0xE0 ≤ a.toNat ∧ a.toNat ≤ 0xEF) (second : isTail b = true)
      (third : isTail c = true) (proper : a.toNat = 0xE0 → 0xA0 ≤ b.toNat)
      (scalar : a.toNat = 0xED → b.toNat < 0xA0) :
      Form ((a.toNat - 0xE0) * 4096 + low b * 64 + low c) [a, b, c]
  | four {a b c d : UInt8} (lead : 0xF0 ≤ a.toNat ∧ a.toNat ≤ 0xF4) (second : isTail b = true)
      (third : isTail c = true) (fourth : isTail d = true)
      (proper : a.toNat = 0xF0 → 0x90 ≤ b.toNat) (scalar : a.toNat = 0xF4 → b.toNat < 0x90) :
      Form ((a.toNat - 0xF0) * 262144 + low b * 4096 + low c * 64 + low d) [a, b, c, d]

namespace Form

variable {n : Nat} {form : List UInt8}

theorem valid (is : Form n form) : n.isValidChar := by
  unfold Nat.isValidChar
  cases is with
  | one short => omega
  | two lead second =>
    rw [isTail_iff] at second
    unfold low
    omega
  | three lead second third proper scalar =>
    rw [isTail_iff] at second third
    unfold low
    omega
  | four lead second third fourth proper scalar =>
    rw [isTail_iff] at second third fourth
    unfold low
    omega

/-- The number of a form is that of its character. -/
theorem char (is : Form n form) : Form (Char.ofNat n).toNat form := by
  have number : (Char.ofNat n).toNat = n := by
    rw [Char.ofNat, dif_pos is.valid]
    rfl
  rwa [number]

private theorem byte_eq {n : Nat} {b : UInt8} (same : n = b.toNat) : UInt8.ofNat n = b := by
  rw [same, UInt8.ofNat_toNat]

theorem ofCode_eq (is : Form n form) : ofCode n = form := by
  cases is with
  | one short => rw [ofCode, if_pos short, UInt8.ofNat_toNat]
  | @two a b lead second =>
    rw [isTail_iff] at second
    unfold low
    rw [ofCode, if_neg (by omega), if_pos (by omega), byte_eq (b := a) (by omega),
      byte_eq (b := b) (by omega)]
  | @three a b c lead second third proper scalar =>
    rw [isTail_iff] at second third
    unfold low
    rw [ofCode, if_neg (by omega), if_neg (by omega), if_pos (by omega),
      byte_eq (b := a) (by omega), byte_eq (b := b) (by omega), byte_eq (b := c) (by omega)]
  | @four a b c d lead second third fourth proper scalar =>
    rw [isTail_iff] at second third fourth
    unfold low
    rw [ofCode, if_neg (by omega), if_neg (by omega), if_neg (by omega),
      byte_eq (b := a) (by omega), byte_eq (b := b) (by omega), byte_eq (b := c) (by omega),
      byte_eq (b := d) (by omega)]

/-- A form begins with a byte that continues nothing, and all others continue it. -/
theorem tails (is : Form n form) :
    ∃ lead more, form = lead :: more ∧ isTail lead = false ∧ ∀ b ∈ more, isTail b = true := by
  have leads {a : UInt8} (apart : a.toNat < 0x80 ∨ 0xBF < a.toNat) : isTail a = false := by
    rw [Bool.eq_false_iff, Ne, isTail_iff]
    omega
  cases is with
  | @one a short => exact ⟨a, [], rfl, leads (by omega), by simp⟩
  | @two a b lead second => exact ⟨a, [b], rfl, leads (by omega), by simp [second]⟩
  | @three a b c lead second third =>
    exact ⟨a, [b, c], rfl, leads (by omega), by simp [second, third]⟩
  | @four a b c d lead second third fourth =>
    exact ⟨a, [b, c, d], rfl, leads (by omega), by simp [second, third, fourth]⟩

/-- A form is read from any bytes that begin with it. -/
theorem scalar?_append (is : Form n form) (rest : List UInt8) :
    scalar? (form ++ rest) = some (Char.ofNat n, form.length - 1) := by
  cases is with
  | one short => simp [scalar?, UInt8.lt_iff_toNat_lt, short]
  | @two a b lead second =>
    have long : ¬ a.toNat < 0x80 := by omega
    simp [scalar?, UInt8.le_iff_toNat_le, UInt8.lt_iff_toNat_lt, long, lead, second]
  | @three a b c lead second third proper scalar =>
    have long : ¬ a.toNat < 0x80 := by omega
    have longer : ¬ a.toNat ≤ 0xDF := by omega
    simp only [List.cons_append, List.nil_append, scalar?, UInt8.lt_iff_toNat_lt,
      UInt8.le_iff_toNat_le, UInt8.reduceToNat, long, longer, lead, second, third]
    simpa [← UInt8.toNat_inj] using And.intro proper scalar
  | @four a b c d lead second third fourth proper scalar =>
    have long : ¬ a.toNat < 0x80 := by omega
    have longer : ¬ a.toNat ≤ 0xDF := by omega
    have longest : ¬ a.toNat ≤ 0xEF := by omega
    simp only [List.cons_append, List.nil_append, scalar?, UInt8.lt_iff_toNat_lt,
      UInt8.le_iff_toNat_le, UInt8.reduceToNat, long, longer, longest, lead, second, third, fourth]
    simpa [← UInt8.toNat_inj] using And.intro proper scalar

end Form

section Codes

private theorem toNat_ofNat {n : Nat} (small : n < 0x100) : (UInt8.ofNat n).toNat = n := by
  rw [UInt8.toNat_ofNat']
  omega

private theorem isTail_add {n : Nat} (bits : n < 0x40) : isTail (.ofNat (0x80 + n)) = true := by
  rw [isTail_iff, toNat_ofNat (by omega)]
  omega

private theorem low_add {n : Nat} (bits : n < 0x40) : low (.ofNat (0x80 + n)) = n := by
  unfold low
  rw [toNat_ofNat (by omega), Nat.add_sub_cancel_left]

/-- Every character has a form. -/
theorem form_ofCode (c : Char) : Form c.toNat (ofCode c.toNat) := by
  have valid : c.toNat.isValidChar := c.valid
  generalize c.toNat = n at valid
  unfold Nat.isValidChar at valid
  have lead {m : Nat} (small : m < 0x100) := toNat_ofNat small
  -- In each case the bits that the bytes carry make up the number again.
  unfold ofCode
  split
  · have form := Form.one (a := .ofNat n) (by rw [lead] <;> omega)
    rwa [lead (by omega)] at form
  · have last : n % 64 < 0x40 := by omega
    split
    · have form := Form.two (a := .ofNat (0xC0 + n / 64)) (by rw [lead] <;> omega)
        (isTail_add last)
      rw [low_add last, lead (by omega)] at form
      convert form using 1
      omega
    · have middle : n / 64 % 64 < 0x40 := by omega
      split
      · have form := Form.three (a := .ofNat (0xE0 + n / 4096)) (by rw [lead] <;> omega)
          (isTail_add middle) (isTail_add last) (by rw [lead, lead] <;> omega)
          (by rw [lead, lead] <;> omega)
        rw [low_add last, low_add middle, lead (by omega)] at form
        convert form using 1
        omega
      · have first : n / 4096 % 64 < 0x40 := by omega
        have form := Form.four (a := .ofNat (0xF0 + n / 262144)) (by rw [lead] <;> omega)
          (isTail_add first) (isTail_add middle) (isTail_add last) (by rw [lead, lead] <;> omega)
          (by rw [lead, lead] <;> omega)
        rw [low_add last, low_add middle, low_add first, lead (by omega)] at form
        convert form using 1
        omega

end Codes

/-- What is read from bytes is the form that they begin with. -/
theorem form_of_scalar? {bytes : List UInt8} {c : Char} {more : Nat} :
    scalar? bytes = some (c, more) →
      ∃ form rest, bytes = form ++ rest ∧ form.length = more + 1 ∧ Form c.toNat form := by
  fun_cases scalar? bytes with
  | case1 a rest short =>
    rintro ⟨⟩
    exact ⟨[a], rest, rfl, rfl, (Form.one short).char⟩
  | case3 a long b rest second leads =>
    rw [Option.some.injEq, Prod.mk.injEq]
    rintro ⟨rfl, rfl⟩
    have lead : 0xC2 ≤ a.toNat ∧ a.toNat ≤ 0xDF := by simpa [UInt8.le_iff_toNat_le] using leads
    exact ⟨[a, b], rest, rfl, rfl, (Form.two lead (by simpa using second)).char⟩
  | case6 a long b second other c rest third leads wrong =>
    rw [Option.some.injEq, Prod.mk.injEq]
    rintro ⟨rfl, rfl⟩
    have lead : 0xE0 ≤ a.toNat ∧ a.toNat ≤ 0xEF := by simpa [UInt8.le_iff_toNat_le] using leads
    obtain ⟨proper, scalar⟩ :
        (a.toNat = 0xE0 → 0xA0 ≤ b.toNat) ∧ (a.toNat = 0xED → b.toNat < 0xA0) := by
      simpa [UInt8.le_iff_toNat_le, UInt8.lt_iff_toNat_lt, ← UInt8.toNat_inj] using wrong
    exact ⟨[a, b, c], rest, rfl, rfl,
      (Form.three lead (by simpa using second) (by simpa using third) proper scalar).char⟩
  | case9 a long b second other c third another d rest fourth leads wrong =>
    rw [Option.some.injEq, Prod.mk.injEq]
    rintro ⟨rfl, rfl⟩
    have lead : 0xF0 ≤ a.toNat ∧ a.toNat ≤ 0xF4 := by simpa [UInt8.le_iff_toNat_le] using leads
    obtain ⟨proper, scalar⟩ :
        (a.toNat = 0xF0 → 0x90 ≤ b.toNat) ∧ (a.toNat = 0xF4 → b.toNat < 0x90) := by
      simpa [UInt8.le_iff_toNat_le, UInt8.lt_iff_toNat_lt, ← UInt8.toNat_inj] using wrong
    exact ⟨[a, b, c, d], rest, rfl, rfl, (Form.four lead (by simpa using second)
      (by simpa using third) (by simpa using fourth) proper scalar).char⟩
  | case2 | case4 | case5 | case7 | case8 | case10 | case11 | case12 | case13 | case14 =>
    rintro ⟨⟩

section Decode

variable {n : Nat} {form front rest : List UInt8} {a : UInt8}

@[simp] theorem decode_nil : decode [] = [] := by rw [decode]

/-- Bytes that begin with a form read as its character and then as the rest does. -/
theorem Form.decode_append (is : Form n form) (rest : List UInt8) :
    decode (form ++ rest) = .char (Char.ofNat n) :: decode rest := by
  have read := is.scalar?_append rest
  obtain ⟨lead, more, rfl, -, -⟩ := is.tails
  rw [List.cons_append] at read ⊢
  rw [decode, read]
  simp

theorem decode_char (c : Char) (rest : List UInt8) :
    decode (ofCode c.toNat ++ rest) = .char c :: decode rest := by
  rw [(form_ofCode c).decode_append, Char.ofNat_toNat]

theorem decode_stray (unread : scalar? (a :: rest) = none) :
    decode (a :: rest) = .stray a :: decode rest := by
  rw [decode, unread]

/-- Bytes are characters and bytes that begin none, one after another. -/
@[elab_as_elim] theorem induction_on_forms {motive : List UInt8 → Prop} (nil : motive [])
    (char : ∀ (c : Char) (rest : List UInt8), motive rest → motive (ofCode c.toNat ++ rest))
    (stray : ∀ (a : UInt8) (rest : List UInt8), scalar? (a :: rest) = none → motive rest →
      motive (a :: rest)) (bytes : List UInt8) : motive bytes := by
  fun_induction decode bytes with
  | case1 => exact nil
  | case2 a rest c more read ih =>
    obtain ⟨form, later, whole, length, is⟩ := form_of_scalar? read
    obtain rfl := is.ofCode_eq
    have dropped : rest.drop more = later := by
      have same := congrArg (List.drop (more + 1)) whole
      rwa [List.drop_succ_cons, ← length, List.drop_left] at same
    rw [whole]
    exact char c later (dropped ▸ ih)
  | case3 a rest unread ih => exact stray a rest unread ih

@[simp] theorem encode_nil : encode [] = [] := rfl

@[simp] theorem encode_append (s t : Text) : encode (s ++ t) = encode s ++ encode t :=
  List.flatMap_append

theorem encode_cons (s : Symbol) (t : Text) : encode (s :: t) = ofSymbol s ++ encode t := rfl

/-- A byte that begins no character is not an ASCII one, so it stands for itself. -/
theorem ofSymbol_stray (unread : scalar? (a :: rest) = none) : ofSymbol (.stray a) = [a] := by
  have high : 0x80 ≤ a.toNat := by
    refine Nat.not_lt.mp fun short => ?_
    have read := (Form.one short).scalar?_append rest
    rw [List.singleton_append, unread] at read
    cases read
  have bound := a.toNat_lt
  have inside : 0x480 ≤ 0x400 + a.toNat ∧ 0x400 + a.toNat < 0x500 := by omega
  simp [ofSymbol, Symbol.stray, inside]

/-- No byte is lost. -/
@[simp] theorem encode_decode (bytes : List UInt8) : encode (decode bytes) = bytes := by
  induction bytes using induction_on_forms with
  | nil => simp
  | char c rest ih =>
    rw [decode_char, encode_cons, ih]
    rfl
  | stray a rest unread ih =>
    rw [decode_stray unread, encode_cons, ofSymbol_stray unread, ih]
    rfl

/-- Different bytes read differently. -/
@[simp] theorem decode_inj {bytes other : List UInt8} :
    decode bytes = decode other ↔ bytes = other :=
  (Function.LeftInverse.injective encode_decode).eq_iff

/-- Only no bytes read as nothing. -/
theorem decode_eq_nil_iff {bytes : List UInt8} : decode bytes = [] ↔ bytes = [] := by
  rw [← decode_nil, decode_inj]

/-- The cut between two runs of bytes falls inside a character. -/
def Severed (front rest : List UInt8) : Prop :=
  ∃ (c : Char) (taken left : List UInt8), taken ++ left = ofCode c.toNat ∧
    taken ≠ [] ∧ left ≠ [] ∧ taken <:+ front ∧ left <+: rest

theorem Severed.append_left {before : List UInt8} (severed : Severed front rest) :
    Severed (before ++ front) rest := by
  obtain ⟨c, taken, left, whole, some_taken, some_left, ends, begins⟩ := severed
  exact ⟨c, taken, left, whole, some_taken, some_left, ends.trans (List.suffix_append ..), begins⟩

/-- What is left of a character that is cut begins with a byte that continues it. -/
theorem Severed.isTail (severed : Severed front rest) :
    ∃ b more, rest = b :: more ∧ isTail b = true := by
  obtain ⟨c, taken, left, whole, some_taken, some_left, -, more, rfl⟩ := severed
  obtain ⟨lead, tails, form, -, continues⟩ := (form_ofCode c).tails
  obtain ⟨first, taken, rfl⟩ := List.exists_cons_of_ne_nil some_taken
  obtain ⟨b, left, rfl⟩ := List.exists_cons_of_ne_nil some_left
  refine ⟨b, left ++ more, rfl, continues b ?_⟩
  rw [form, List.cons_append, List.cons.injEq] at whole
  rw [← whole.2]
  simp

/-- Unless a character is cut both parts read as they do alone. -/
theorem decode_append (unsevered : ¬ Severed front rest) :
    decode (front ++ rest) = decode front ++ decode rest := by
  induction front using induction_on_forms with
  | nil => simp
  | char c front ih =>
    rw [List.append_assoc, decode_char, decode_char, List.cons_append,
      ih fun severed => unsevered severed.append_left]
  | stray a front unread ih =>
    -- A character read from here on would have to reach over the cut.
    have still : scalar? (a :: (front ++ rest)) = none := by
      rw [Option.eq_none_iff_forall_ne_some]
      rintro ⟨c, more⟩ read
      obtain ⟨form, later, whole, -, is⟩ := form_of_scalar? read
      rw [← List.cons_append] at whole
      have alone (rest : List UInt8) : a :: front ≠ form ++ rest := by
        intro begins
        rw [begins, is.scalar?_append] at unread
        cases unread
      obtain ⟨left, rfl, rfl⟩ | ⟨more, begins, -⟩ := List.append_eq_append_iff.mp whole
      · refine unsevered ⟨c, a :: front, left, is.ofCode_eq.symm, by simp, ?_, List.suffix_rfl,
          List.prefix_append ..⟩
        rintro rfl
        exact alone [] (by simp)
      · exact alone more begins
    have apart : ¬ Severed front rest := by
      intro severed
      have whole : Severed ([a] ++ front) rest := severed.append_left
      exact unsevered whole
    rw [List.cons_append, decode_stray still, decode_stray unread, ih apart, List.cons_append]

/-- The beginning of a character reads as stray bytes. -/
private theorem decode_part {c : Char} {lead : UInt8} {taken left : List UInt8}
    (whole : lead :: taken ++ left = ofCode c.toNat) (some_left : left ≠ []) :
    decode (lead :: taken) = .stray lead :: decode taken := by
  refine decode_stray (Option.eq_none_iff_forall_ne_some.mpr ?_)
  rintro ⟨other, more⟩ read
  obtain ⟨form, rest, begins, length, is⟩ := form_of_scalar? read
  -- It would be read from the whole character too, which is longer.
  have again := is.scalar?_append (rest ++ left)
  rw [← List.append_assoc, ← begins, whole, ← List.append_nil (ofCode c.toNat),
    (form_ofCode c).scalar?_append, Option.some.injEq, Prod.mk.injEq] at again
  have shorter := congrArg List.length whole
  have longer := congrArg List.length begins
  have given := List.length_pos_iff.mpr some_left
  simp only [List.length_append, List.length_cons] at shorter longer
  omega

/-- Bytes read as the beginning of what they are the beginning of exactly if no character
is cut. -/
theorem decode_prefix_iff : decode front <+: decode (front ++ rest) ↔ ¬ Severed front rest := by
  constructor
  · rintro begins ⟨c, taken, left, whole, some_taken, some_left, ⟨before, rfl⟩, more, rfl⟩
    obtain ⟨lead, taken, rfl⟩ := List.exists_cons_of_ne_nil some_taken
    obtain ⟨first, tails, form, starts, -⟩ := (form_ofCode c).tails
    have same : lead = first := (List.cons.inj (whole.trans form)).1
    have apart (rest : List UInt8) : ¬ Severed before (lead :: rest) := by
      intro severed
      obtain ⟨b, more, given, continues⟩ := severed.isTail
      cases given
      rw [same, starts] at continues
      cases continues
    -- Behind what comes before it, one side has a stray byte and the other the character.
    rw [List.append_assoc, ← List.append_assoc (lead :: taken), whole, form, List.cons_append,
      ← same, decode_append (apart _), decode_append (apart _), List.prefix_append_right_inj,
      decode_part whole some_left, same, ← List.cons_append, ← form, decode_char,
      List.cons_prefix_cons] at begins
    cases begins.1
  · intro unsevered
    rw [decode_append unsevered]
    exact List.prefix_append ..

end Decode
end NamedSignal.Utf8
