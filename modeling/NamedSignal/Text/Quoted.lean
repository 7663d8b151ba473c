import NamedSignal.Text.Printable

/-!
A text between quotes, on one line and without invisible symbols. The single
quote is used unless the text holds one and no double quote, so a quote inside
is escaped only where the text holds both.
-/
namespace NamedSignal.Text

/-- The hexadecimal digits of a number, filled up with zeros to a width. -/
def hexadecimal (width n : Nat) : List Char :=
  let digits := Nat.toDigits 16 n
  List.replicate (width - digits.length) '0' ++ digits

/-- The escape of a symbol by its code point: two, four or eight digits. -/
def codeEscape (s : Symbol) : List Char :=
  if s.code < 0x100 then '\\' :: 'x' :: hexadecimal 2 s.code
  else if s.code < 0x10000 then '\\' :: 'u' :: hexadecimal 4 s.code
  else '\\' :: 'U' :: hexadecimal 8 s.code

/-- The mark that encloses a text. -/
def quoteMark (t : Text) : Char :=
  if t.contains (.char '\x27') && !t.contains (.char '"') then '"' else '\x27'

/-- One symbol between quotes. -/
def quoteSymbol (mark : Char) (s : Symbol) : Text :=
  if s == .char mark || s == .char '\\' then [.char '\\', s]
  else if s == .char '\t' then ofString "\\t"
  else if s == .char '\n' then ofString "\\n"
  else if s == .char '\r' then ofString "\\r"
  else if s.isPrintable then [s]
  else (codeEscape s).map .char

/-- The text between quotes (`repr`). -/
def quoted (t : Text) : Text :=
  .char t.quoteMark :: t.flatMap (quoteSymbol t.quoteMark) ++ [.char t.quoteMark]

/-- The text as a terminal shows it: a lone surrogate by its escape. -/
def visible (t : Text) : List Char :=
  t.flatMap fun
    | .char c => [c]
    | .lone offset => codeEscape (.lone offset)

end NamedSignal.Text
