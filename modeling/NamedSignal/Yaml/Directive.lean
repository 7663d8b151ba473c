import NamedSignal.Numeral
import NamedSignal.Yaml.Character
import NamedSignal.Yaml.Property

/-!
Directive lines. Those for the version and for tag handles must be complete;
all others are passed over.
-/
namespace NamedSignal.Yaml.Directive

/-- A part of a version number and what follows it. -/
def readNumber (ahead : List Char) : Except Fault (Nat × List Char) :=
  let digits := ahead.takeWhile Char.isDigit
  if digits.isEmpty then .error .malformed
  else match Numeral.decimal? (digits.map .char) with
  | some n => .ok (n, ahead.dropWhile Char.isDigit)
  | none => .error .outOfRange

/-- A version number and what follows it. -/
def readVersion (ahead : List Char) : Except Fault (Directive × List Char) := do
  let (major, ahead) ← readNumber (skipSpaces ahead)
  match ahead with
  | '.' :: ahead =>
    let (_, rest) ← readNumber ahead
    if atSpace rest then return (.version major, rest) else .error .malformed
  | _ => .error .malformed

/-- A handle, the start of the tags it stands for, and what follows them. -/
def readHandle (ahead : List Char) : Except Fault (Directive × List Char) := do
  let (handle, ahead) ← Property.handle (skipSpaces ahead)
  if ahead.head? != some ' ' then .error .malformed
  let (start, rest) ← Property.tagChars (skipSpaces ahead)
  if atSpace rest then return (.tagStart handle start, rest) else .error .malformed

/-- The directive whose mark has been read, and the lines below it. -/
def ofChars (ahead : List Char) : Except Fault (Directive × List Char) := do
  let name := ahead.takeWhile isNameChar
  let ahead := ahead.dropWhile isNameChar
  if name.isEmpty || !atSpace ahead then .error .malformed
  let (directive, rest) ←
    if name == "YAML".toList then readVersion ahead
    else if name == "TAG".toList then readHandle ahead
    else pure (.other, skipComment ahead)
  return (directive, ← endLine rest)

end NamedSignal.Yaml.Directive
