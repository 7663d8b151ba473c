import NamedSignal.Yaml.Character

/-!
Scalars in a block of their own. The lines of the block are those with the
indentation of its first line, or with the one its header states, and lines
that are blank. A literal block keeps its line breaks; a folded one joins lines
that both begin at the indentation. The header says what becomes of the breaks
at the end.
-/
namespace NamedSignal.Yaml.Block

/-- What becomes of the line breaks at the end. -/
inductive Chomping where
  /-- None is kept. -/
  | strip
  /-- The one of the last line is kept. -/
  | clip
  /-- All are kept. -/
  | keep
  deriving DecidableEq

/-- What stands behind the mark of a block. -/
structure Header where
  chomping : Chomping
  /-- The indentation, counted from that of the block around. -/
  increment : Option Nat

/-- What a sign says about line breaks at the end. -/
def chomping? (c : Char) : Option Chomping :=
  if c == '+' then some .keep else if c == '-' then some .strip else none

/-- A sign and what follows it. -/
def takeChomping (ahead : List Char) : Chomping × List Char :=
  match ahead with
  | c :: rest =>
    match chomping? c with
    | some chomping => (chomping, rest)
    | none => (.clip, ahead)
  | [] => (.clip, ahead)

/-- A digit and what follows it; zero is no indentation. -/
def takeIncrement (ahead : List Char) : Except Fault (Option Nat × List Char) :=
  match ahead with
  | c :: rest =>
    if c == '0' then .error .malformed
    else if c.isDigit then .ok (some (c.toNat - '0'.toNat), rest)
    else .ok (none, ahead)
  | [] => .ok (none, ahead)

/-- The header, its two parts in either order, and the lines below it. -/
def header (ahead : List Char) : Except Fault (Header × List Char) := do
  let (before, ahead) := takeChomping ahead
  let (increment, ahead) ← takeIncrement ahead
  let (after, ahead) := if before == .clip && increment.isSome then takeChomping ahead
    else (before, ahead)
  if !atSpace ahead then .error .malformed
  return (⟨after, increment⟩, ← endLine ahead)

/-- A line of a block. -/
inductive Line where
  | blank (ending : Symbol)
  /-- The text behind the indentation, and the line break unless the document
  ends first. -/
  | full (content ending : Text)

/-- Blank lines at the start, the widest indentation among them and the first
other line, and where that line's text begins. -/
structure Lead where
  blanks : List Line
  width : Nat
  column : Nat
  rest : List Char

/-- Skip blank lines and the indentation of the first other line. -/
def lead (blanks : List Line) (width column : Nat) : List Char → Lead
  | [] => ⟨blanks.reverse, width, column, []⟩
  | c :: rest =>
    if c == ' ' then lead blanks (max width (column + 1)) (column + 1) rest
    else if isBreak c then lead (.blank (.char (breakText c)) :: blanks) width 0 rest
    else ⟨blanks.reverse, width, column, c :: rest⟩

/-- How much of a line has been read. -/
inductive Progress where
  | indentation (column : Nat)
  | content (reversed : Text)

/-- The lines of a block, and what follows the block. -/
def lines (indent : Nat) (progress : Progress) (reversed : List Line) :
    List Char → List Line × List Char
  | [] =>
    match progress with
    | .indentation _ => (reversed.reverse, [])
    | .content content => ((.full content.reverse [] :: reversed).reverse, [])
  | c :: rest =>
    match progress with
    | .indentation column =>
      if column < indent && c == ' ' then lines indent (.indentation (column + 1)) reversed rest
      else if isBreak c then
        lines indent (.indentation 0) (.blank (.char (breakText c)) :: reversed) rest
      else if column == indent then lines indent (.content [.char c]) reversed rest
      else (reversed.reverse, c :: rest)
    | .content content =>
      if isBreak c then
        lines indent (.indentation 0)
          (.full content.reverse [.char (breakText c)] :: reversed) rest
      else lines indent (.content (.char c :: content)) reversed rest

/-- A line with text and the line breaks of the blank lines below it. -/
structure Paragraph where
  content : Text
  ending : Text
  blanks : Text

/-- The line begins with more white space. -/
def Paragraph.isIndented (p : Paragraph) : Bool :=
  p.content.head? == some (.char ' ') || p.content.head? == some (.char '\t')

/-- The breaks before the first paragraph, and the paragraphs. -/
def paragraphs : List Line → Text × List Paragraph
  | [] => ([], [])
  | .blank ending :: rest => let later := paragraphs rest; (ending :: later.1, later.2)
  | .full content ending :: rest =>
    let later := paragraphs rest
    ([], ⟨content, ending, later.1⟩ :: later.2)

/-- What the line break between two paragraphs stands for. -/
def between (folded : Bool) (first second : Paragraph) : Text :=
  if folded && first.ending == [.char '\n'] && !first.isIndented && !second.isIndented then
    if first.blanks.isEmpty then [.char ' '] else []
  else first.ending

/-- The text of paragraphs. -/
def join (folded : Bool) (chomping : Chomping) : List Paragraph → Text
  | [] => []
  | [last] =>
    last.content ++ (if chomping == .strip then [] else last.ending) ++
      (if chomping == .keep then last.blanks else [])
  | first :: second :: more =>
    first.content ++ between folded first second ++ first.blanks ++
      join folded chomping (second :: more)

/-- The text of lines. -/
def textOf (folded : Bool) (chomping : Chomping) (lines : List Line) : Text :=
  match paragraphs lines with
  | (blanks, []) => if chomping == .keep then blanks else []
  | (blanks, paragraphs) => blanks ++ join folded chomping paragraphs

/-- The text of the block whose mark has been read, inside a block with a
given indentation, and what follows it. -/
def ofChars (folded : Bool) (outer : Int) (ahead : List Char) :
    Except Fault (Text × List Char) := do
  let (header, ahead) ← header ahead
  let least := (max (outer + 1) 1).toNat
  match header.increment with
  | some increment =>
    let (lines, rest) := lines (least + increment - 1) (.indentation 0) [] ahead
    return (textOf folded header.chomping lines, rest)
  | none =>
    let start := lead [] 0 0 ahead
    let (later, rest) := lines (max least start.width) (.indentation start.column) [] start.rest
    return (textOf folded header.chomping (start.blanks ++ later), rest)

end NamedSignal.Yaml.Block
