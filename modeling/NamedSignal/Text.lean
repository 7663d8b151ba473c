/-!
A process name, a path or an argument is a run of bytes that is usually, but
not always, text. `Text` keeps both: a symbol is either a Unicode scalar value
or a surrogate that stands alone, and the surrogates from U+DC80 on stand for
the bytes that no scalar value claims.
-/
namespace NamedSignal

/-- One code point. A lone surrogate is kept by its offset from U+D800. -/
inductive Symbol where
  | char (c : Char)
  | lone (offset : Fin 0x800)
  deriving DecidableEq, Inhabited

namespace Symbol

/-- The number of the code point. -/
def code : Symbol → Nat
  | char c => c.toNat
  | lone offset => 0xD800 + offset.val

/-- The symbol with a given code point; numbers beyond Unicode have none. -/
def ofCode? (code : Nat) : Option Symbol :=
  if high : 0xD800 ≤ code ∧ code < 0xE000 then
    some (.lone ⟨code - 0xD800, by omega⟩)
  else if code < 0x110000 then some (.char (Char.ofNat code))
  else none

/-- The lone surrogate that stands for a byte outside any encoded scalar. -/
def stray (byte : UInt8) : Symbol :=
  .lone ⟨0x400 + byte.toNat, by have := byte.toNat_lt; omega⟩

/-- The scalar value, where the symbol is one. -/
def char? : Symbol → Option Char
  | char c => some c
  | lone _ => none

/-- The symbol is white space around a numeral: a blank or a line end of Unicode, but no
separator among the control characters. -/
def isSpace (s : Symbol) : Bool :=
  (9 ≤ s.code && s.code ≤ 13) || (0x2000 ≤ s.code && s.code ≤ 0x200A) ||
    [0x20, 0x85, 0xA0, 0x1680, 0x2028, 0x2029, 0x202F, 0x205F, 0x3000].contains s.code

theorem char_injective : Function.Injective char := fun _ _ same => Symbol.char.inj same

end Symbol

/-- A sequence of code points. -/
abbrev Text := List Symbol

namespace Text

/-- Every character of a string, as a text. -/
def ofString (s : String) : Text := s.toList.map .char

instance : Coe String Text := ⟨ofString⟩

/-- The texts one after another. -/
def concat (parts : List Text) : Text := parts.flatten

/-- A natural number in decimal. -/
def ofNat (n : Nat) : Text := (Nat.toDigits 10 n).map .char

/-- An integer in decimal, with a sign only when it is negative. -/
def ofInt : Int → Text
  | .ofNat n => ofNat n
  | .negSucc n => .char '-' :: ofNat (n + 1)

/-- The characters of a text without lone surrogates. -/
def chars? (t : Text) : Option (List Char) := t.mapM Symbol.char?

/-- The text is made of ASCII characters only. -/
def isAscii (t : Text) : Bool := t.all (·.code < 0x80)

/-- Drop the longest run at the end whose symbols all satisfy `p`. -/
def trimEnd (p : Symbol → Bool) (t : Text) : Text := (t.reverse.dropWhile p).reverse

/-- Drop such runs at both ends. -/
def trim (p : Symbol → Bool) (t : Text) : Text := trimEnd p (t.dropWhile p)

/-- The text followed by blanks up to a width; a longer text is left alone. -/
def padTo (width : Nat) (t : Text) : Text :=
  t ++ List.replicate (width - t.length) (.char ' ')

/-- Texts joined by a separator. -/
def joinWith (separator : Text) (parts : List Text) : Text :=
  separator.intercalate parts

/-- The order of texts by code point. -/
def le (a b : Text) : Bool := !(decide (b.map Symbol.code < a.map Symbol.code))

/-- Every line end as a line feed. A carriage return, alone or with a line feed behind
it, ends a line too. -/
def unifyNewlines : List Char → List Char
  | [] => []
  | '\r' :: '\n' :: rest => '\n' :: unifyNewlines rest
  | c :: rest => (if c == '\r' then '\n' else c) :: unifyNewlines rest

end Text

end NamedSignal
