import NamedSignal.Yaml.Character

/-!
A place in a text. The index counts characters from the start; the column
counts those since the line break before, byte order marks left out.
-/
namespace NamedSignal.Yaml

/-- A place in a text. -/
structure Cursor where
  ahead : List Char
  index : Nat := 0
  line : Nat := 0
  column : Nat := 0

namespace Cursor

/-- The place behind the next character. -/
def next (place : Cursor) : Cursor :=
  match place.ahead with
  | [] => place
  | c :: rest =>
    if isBreak c then
      { ahead := rest, index := place.index + 1, line := place.line + 1, column := 0 }
    else
      { ahead := rest, index := place.index + 1, line := place.line
        column := if c == byteOrderMark then place.column else place.column + 1 }

/-- The place a number of characters on. -/
def skip (place : Cursor) : Nat → Cursor
  | 0 => place
  | count + 1 => place.next.skip count

/-- The place at which a given rest of the text is ahead. -/
def moveTo (place : Cursor) (rest : List Char) : Cursor :=
  place.skip (place.ahead.length - rest.length)

end Cursor
end NamedSignal.Yaml
