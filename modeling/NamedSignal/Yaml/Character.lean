import NamedSignal.Text

/-!
Classes of characters, and faults. The end of the text counts as a blank and as a line
break, so each class also comes as a question about what is ahead. A line that has said
what it says may go on with spaces and a comment only. Most faults are of one kind, a
document that is malformed or has a part without a meaning; the others come from
scalars whose text does not fit their type.
-/
namespace NamedSignal.Yaml

/-- Why a document has no value. -/
inductive Fault where
  | malformed
  /-- A numeral, a date or a code point that does not exist. -/
  | outOfRange
  /-- A number beyond every representation. -/
  | tooLarge
  /-- A word that is no truth value, in small letters. -/
  | notBoolean (word : Text)
  | emptyNumeral
  | notMoment
  /-- A collection where a moment is expected. -/
  | momentOfCollection
  deriving DecidableEq

/-- The character may stand in a document. -/
def isPrintable (c : Char) : Bool :=
  c == '\t' || c == '\n' || c == '\r' || c == '\u0085' ||
    (' ' ≤ c && c ≤ '~') || ('\u00a0' ≤ c && c ≤ '\ufffd') || 0x10000 ≤ c.toNat

/-- The mark that may stand at the very start of a text. -/
def byteOrderMark : Char := '\ufeff'

/-- The character ends a line. -/
def isBreak (c : Char) : Bool :=
  c == '\n' || c == '\r' || c == '\u0085' || c == '\u2028' || c == '\u2029'

/-- What a line break stands for in a scalar: two of them stand for themselves. -/
def breakText (c : Char) : Char := if c == '\u2028' || c == '\u2029' then c else '\n'

/-- A space or a tab. -/
def isBlank (c : Char) : Bool := c == ' ' || c == '\t'

/-- A letter, a digit or a mark that names are made of. -/
def isNameChar (c : Char) : Bool := c.isAlphanum || c == '-' || c == '_'

/-- A character of a tag. -/
def isTagChar (c : Char) : Bool := c.isAlphanum || "-;/?:@&=+$,_.!~*'()[]%".toList.contains c

/-- The value of a hexadecimal digit. -/
def hexDigit? (c : Char) : Option Nat :=
  if c.isDigit then some (c.toNat - '0'.toNat)
  else if 'a' ≤ c && c ≤ 'f' then some (c.toNat - 'a'.toNat + 10)
  else if 'A' ≤ c && c ≤ 'F' then some (c.toNat - 'A'.toNat + 10)
  else none

/-- The line ends here, or a space stands here. -/
def atSpace (ahead : List Char) : Bool := ahead.head?.all fun c => c == ' ' || isBreak c

/-- The line ends here, or a space or a tab stands here. -/
def atBlank (ahead : List Char) : Bool := ahead.head?.all fun c => isBlank c || isBreak c

/-- A line that begins here separates documents. -/
def atSeparator : List Char → Bool
  | '-' :: '-' :: '-' :: rest => atBlank rest
  | '.' :: '.' :: '.' :: rest => atBlank rest
  | _ => false

/-- The text without the spaces it begins with. -/
def skipSpaces (ahead : List Char) : List Char := ahead.dropWhile (· == ' ')

/-- The text from the end of its first line on. -/
def skipComment (ahead : List Char) : List Char := ahead.dropWhile (!isBreak ·)

/-- The lines below a line that holds at most a comment. -/
def endLine (ahead : List Char) : Except Fault (List Char) :=
  let ahead := skipSpaces ahead
  match if ahead.head? == some '#' then skipComment ahead else ahead with
  | [] => .ok []
  | c :: rest => if isBreak c then .ok rest else .error .malformed

end NamedSignal.Yaml
