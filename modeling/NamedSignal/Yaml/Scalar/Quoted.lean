import NamedSignal.Yaml.Character

/-!
Scalars between quotes. White space at a line break is folded: one break
becomes a space, and of several all but the first are kept. Between single
quotes only the quote is written twice; between double quotes a backslash
escapes characters and line breaks.
-/
namespace NamedSignal.Yaml.Quoted

/-- What has been read of an escape or of white space. -/
inductive Pending where
  | none
  /-- Blanks on one line, last one first. -/
  | blanks (reversed : Text)
  /-- A first line break as it counts, and the breaks after it, last one first. -/
  | lines (first reversed : Text)
  /-- A backslash. -/
  | backslash
  /-- A code point with some digits still to come. -/
  | code (left value : Nat)

/-- What a first line break and the ones after it fold to. -/
def fold (first : Text) (others : Text) : Text :=
  if first != [.char '\n'] then first ++ others
  else if others.isEmpty then [.char ' '] else others

/-- What white space that has come to its end stands for. -/
def Pending.settled : Pending → Text
  | blanks reversed => reversed.reverse
  | lines first reversed => fold first reversed.reverse
  | _ => []

/-- The character that a one-letter escape stands for. -/
def escaped? (c : Char) : Option Char :=
  match c with
  | '0' => some '\x00'
  | 'a' => some '\x07'
  | 'b' => some '\x08'
  | 't' | '\t' => some '\t'
  | 'n' => some '\n'
  | 'v' => some '\x0b'
  | 'f' => some '\x0c'
  | 'r' => some '\r'
  | 'e' => some '\x1b'
  | ' ' | '"' | '\\' | '/' => some c
  | 'N' => some '\u0085'
  | '_' => some '\u00a0'
  | 'L' => some '\u2028'
  | 'P' => some '\u2029'
  | _ => none

/-- The number of digits in an escape by code point. -/
def codeDigits? (c : Char) : Option Nat :=
  match c with
  | 'x' => some 2
  | 'u' => some 4
  | 'U' => some 8
  | _ => none

/-- The symbol with a code point that is written out. -/
def symbolOfCode (code : Nat) : Except Fault Symbol :=
  match Symbol.ofCode? code with
  | some symbol => .ok symbol
  | none => .error (if code < 0x80000000 then .outOfRange else .tooLarge)

/-- Read on to the closing quote; what is read so far stands in reverse. -/
def scan (quote : Char) (pending : Pending) (reversed : Text) :
    List Char → Except Fault (Text × List Char)
  | [] => .error .malformed
  | c :: rest =>
    match pending with
    | .backslash =>
      match escaped? c, codeDigits? c with
      | some stands, _ => scan quote .none (.char stands :: reversed) rest
      | none, some digits => scan quote (.code digits 0) reversed rest
      | none, none =>
        if !isBreak c || atSeparator rest then .error .malformed
        else scan quote (.lines [] []) reversed rest
    | .code left value =>
      match hexDigit? c with
      | none => .error .malformed
      | some digit =>
        let value := value * 16 + digit
        if 1 < left then scan quote (.code (left - 1) value) reversed rest
        else match symbolOfCode value with
        | .error fault => .error fault
        | .ok symbol => scan quote .none (symbol :: reversed) rest
    | pending =>
      if isBlank c then
        match pending with
        | .lines first others => scan quote (.lines first others) reversed rest
        | .blanks before => scan quote (.blanks (.char c :: before)) reversed rest
        | _ => scan quote (.blanks [.char c]) reversed rest
      else if isBreak c then
        if atSeparator rest then .error .malformed
        else match pending with
        | .lines first others =>
          scan quote (.lines first (.char (breakText c) :: others)) reversed rest
        | _ => scan quote (.lines [.char (breakText c)] []) reversed rest
      else
        let reversed := pending.settled.reverse ++ reversed
        if c == quote then
          match quote, rest with
          | '\x27', '\x27' :: rest => scan quote .none (.char '\x27' :: reversed) rest
          | _, _ => .ok (reversed.reverse, rest)
        else if c == '\\' && quote == '"' then scan quote .backslash reversed rest
        else scan quote .none (.char c :: reversed) rest

/-- The text up to the closing quote, and what follows the quote. -/
def ofChars (quote : Char) (ahead : List Char) : Except Fault (Text × List Char) :=
  scan quote .none [] ahead

end NamedSignal.Yaml.Quoted
