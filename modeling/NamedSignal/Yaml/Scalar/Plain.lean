import NamedSignal.Yaml.Character

/-!
Scalars without quotes. One ends where something else begins: a comment after
white space, a colon before a blank, a tab, in brackets a bracket or a comma,
and elsewhere a line that is not indented enough. White space in between is
folded as between quotes.
-/
namespace NamedSignal.Yaml.Plain

/-- A plain scalar. -/
structure Result where
  text : Text
  rest : List Char
  /-- The white space behind the scalar holds a line break. -/
  crossed : Bool

/-- White space that may turn out to be inside the scalar. -/
inductive Gap where
  | none
  | spaces (count : Nat)
  /-- A first line break, the breaks after it, last one first, and the spaces
  since. -/
  | lines (first : Char) (reversed : List Char) (column : Nat)

/-- What the gap stands for inside the scalar. -/
def Gap.text : Gap → List Char
  | none => []
  | spaces count => List.replicate count ' '
  | lines first reversed _ =>
    if first != '\n' then first :: reversed.reverse
    else if reversed.isEmpty then [' '] else reversed.reverse

/-- The gap holds a line break. -/
def Gap.crossed : Gap → Bool
  | lines .. => true
  | _ => false

/-- A character that no plain scalar goes on with, seen with what follows it. -/
def ends (inFlow : Bool) (c : Char) (rest : List Char) : Bool :=
  isBlank c || isBreak c ||
    (c == ':' && (atBlank rest || inFlow && rest.head?.any ",[]\x7b\x7d".toList.contains)) ||
    (inFlow && ",?[]\x7b\x7d".toList.contains c)

/-- The scalar cannot go on behind the gap: a comment begins, or the line is
not indented enough. -/
def Gap.closes (inFlow : Bool) (indent : Int) (c : Char) : Gap → Bool
  | none => false
  | spaces _ => c == '#'
  | lines _ _ column => c == '#' || !inFlow && (column : Int) < indent

/-- Read on; what is read so far stands in reverse. -/
def scan (inFlow : Bool) (indent : Int) (gap : Gap) (reversed : List Char) : List Char → Result
  | [] => ⟨reversed.reverse.map .char, [], gap.crossed⟩
  | c :: rest =>
    let stop : Result := ⟨reversed.reverse.map .char, c :: rest, gap.crossed⟩
    if c == ' ' then
      match gap with
      | .none => scan inFlow indent (.spaces 1) reversed rest
      | .spaces count => scan inFlow indent (.spaces (count + 1)) reversed rest
      | .lines first others column =>
        scan inFlow indent (.lines first others (column + 1)) reversed rest
    else if isBreak c then
      if atSeparator rest then ⟨reversed.reverse.map .char, rest, true⟩
      else match gap with
      | .lines first others _ =>
        scan inFlow indent (.lines first (breakText c :: others) 0) reversed rest
      | _ => scan inFlow indent (.lines (breakText c) [] 0) reversed rest
    else if gap.closes inFlow indent c || ends inFlow c rest then stop
    else scan inFlow indent .none (c :: gap.text.reverse ++ reversed) rest

/-- The plain scalar that is ahead. -/
def ofChars (inFlow : Bool) (indent : Int) (ahead : List Char) : Result :=
  scan inFlow indent .none [] ahead

end NamedSignal.Yaml.Plain
