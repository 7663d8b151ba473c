import NamedSignal.Yaml.Cursor
import NamedSignal.Yaml.Directive
import NamedSignal.Yaml.Scalar.Block
import NamedSignal.Yaml.Scalar.Plain
import NamedSignal.Yaml.Scalar.Quoted

/-!
The tokens of a text (the scanner of `PyYAML`). Whether a node is the key of a mapping
shows only at the colon behind it, so the place of a node that may be one is kept as a
candidate; the colon then puts the tokens of the key in front of the node. A candidate
must stand on one line with its colon and at most `keyReach` characters before it.
Tokens in front of every candidate are final.
-/
namespace NamedSignal.Yaml

/-- The tokens of a text, up to a fault if there is one (`yaml.scan`). -/
structure Tokens where
  tokens : List Token
  fault : Option Fault

namespace Tokens

/-- How far a key reaches at most. -/
def keyReach : Nat := 1024

/-- A node that is a key if a colon follows. -/
structure Candidate where
  /-- The number of tokens in front of the node. -/
  position : Nat
  /-- The block around the node leaves no choice: it has to be a key. -/
  required : Bool
  index : Nat
  line : Nat
  column : Nat

/-- A text read in part. -/
structure Scan where
  place : Cursor
  tokens : Array Token := #[]
  /-- The columns of the block collections around, innermost first. -/
  indents : List Nat := []
  /-- A key may begin here. -/
  keyAllowed : Bool := true
  /-- The candidate in the innermost brackets, or outside all. -/
  candidate : Option Candidate := none
  /-- The candidates around each pair of brackets, innermost first. -/
  outer : List (Option Candidate) := []

namespace Scan

/-- The place is between brackets. -/
def inFlow (s : Scan) : Bool := !s.outer.isEmpty

/-- The column of the innermost block collection. -/
def indent (s : Scan) : Int :=
  match s.indents with
  | [] => -1
  | column :: _ => column

/-- Add a token. -/
def push (s : Scan) (token : Token) : Scan := { s with tokens := s.tokens.push token }

/-- Go on behind a number of characters. -/
def skip (s : Scan) (count : Nat) : Scan := { s with place := s.place.skip count }

/-- Go on where a given rest of the text is ahead. -/
def moveTo (s : Scan) (rest : List Char) : Scan := { s with place := s.place.moveTo rest }

/-- A candidate that can still become a key; one that cannot must not be
required. -/
def keep (place : Cursor) : Option Candidate → Except Fault (Option Candidate)
  | none => .ok none
  | some candidate =>
    if candidate.line == place.line && place.index - candidate.index ≤ keyReach then
      .ok (some candidate)
    else if candidate.required then .error .malformed
    else .ok none

/-- Give up the candidates that are out of reach. -/
def refresh (s : Scan) : Except Fault Scan := do
  return { s with
    candidate := ← keep s.place s.candidate
    outer := ← s.outer.mapM (keep s.place) }

/-- Give up the innermost candidate. -/
def giveUp (s : Scan) : Except Fault Scan :=
  if s.candidate.any (·.required) then .error .malformed
  else .ok { s with candidate := none }

/-- Make what begins here a candidate, if a key may begin here. No key may
begin right behind it. -/
def offer (s : Scan) : Except Fault Scan := do
  if !s.keyAllowed then return s
  let s ← s.giveUp
  let candidate : Candidate :=
    { position := s.tokens.size
      required := !s.inFlow && s.indent == s.place.column
      index := s.place.index
      line := s.place.line
      column := s.place.column }
  return { s with candidate := some candidate, keyAllowed := false }

/-- Close the block collections that reach further right than a column. -/
def unwind (s : Scan) (column : Int) : Scan :=
  if s.inFlow then s
  else
    let closed := (s.indents.takeWhile fun (indent : Nat) => column < indent).length
    { s with
      indents := s.indents.drop closed
      tokens := s.tokens ++ List.replicate closed Token.blockEnd }

/-- Open a block collection at a column, unless one is open there; its token
goes to a given position. -/
def openBlock (s : Scan) (column position : Nat) (start : Token) : Scan :=
  if s.inFlow || (column : Int) ≤ s.indent then s
  else
    { s with
      indents := column :: s.indents
      tokens := s.tokens.insertIdxIfInBounds position start }

/-- End every block and what is said about a document. -/
def endDocument (s : Scan) : Except Fault Scan := do
  let s ← (s.unwind (-1)).giveUp
  return { s with keyAllowed := false }

/-- Enter brackets. -/
def enter (s : Scan) (start : Token) : Except Fault Scan := do
  let s ← s.offer
  let s := { s with outer := s.candidate :: s.outer, candidate := none, keyAllowed := true }
  return (s.skip 1).push start

/-- Leave brackets. -/
def leave (s : Scan) (ending : Token) : Except Fault Scan := do
  let s ← s.giveUp
  match s.outer with
  | [] => .error .malformed
  | candidate :: outer =>
    let s := { s with candidate, outer, keyAllowed := false }
    return (s.skip 1).push ending

/-- Put an entry mark of a block, which opens the block where none is. -/
def mark (s : Scan) (start token : Token) (keyFollows : Bool) : Except Fault Scan := do
  if !s.inFlow && !s.keyAllowed then .error .malformed
  let s := s.openBlock s.place.column s.tokens.size start
  let s ← { s with keyAllowed := keyFollows }.giveUp
  return (s.skip 1).push token

/-- Put the mark of a value. A candidate becomes its key. -/
def colon (s : Scan) : Except Fault Scan :=
  match s.candidate with
  | none => s.mark (.mappingStart .block) .value (!s.inFlow)
  | some candidate =>
    let s := { s with
      tokens := s.tokens.insertIdxIfInBounds candidate.position .key
      candidate := none
      keyAllowed := false }
    let s := s.openBlock candidate.column candidate.position (.mappingStart .block)
    .ok ((s.skip 1).push .value)

/-- Put a token read by a function on the rest of the text behind some
characters, which may begin a key. -/
def read {α : Type} (s : Scan) (count : Nat) (scan : List Char → Except Fault (α × List Char))
    (token : α → Token) : Except Fault Scan := do
  let s ← s.offer
  let (value, rest) ← scan (s.place.ahead.drop count)
  return ({ s with keyAllowed := false }.moveTo rest).push (token value)

/-- Put a block scalar. -/
def readBlock (s : Scan) (folded : Bool) : Except Fault Scan := do
  let s ← { s with keyAllowed := true }.giveUp
  let (text, rest) ← Block.ofChars folded s.indent (s.place.ahead.drop 1)
  return (s.moveTo rest).push (.scalar text false)

/-- Put a plain scalar. -/
def readPlain (s : Scan) : Except Fault Scan := do
  let s ← s.offer
  let scalar := Plain.ofChars s.inFlow (s.indent + 1) s.place.ahead
  let s := { s with keyAllowed := scalar.crossed }
  return (s.moveTo scalar.rest).push (.scalar scalar.text true)

/-- A plain scalar can begin with a character, seen with what follows it. -/
def beginsPlain (inFlow : Bool) (c : Char) (rest : List Char) : Bool :=
  !(isBlank c || isBreak c || "-?:,[]\x7b\x7d#&*!|>'\"%@\x60".toList.contains c) ||
    (!atBlank rest && (c == '-' || !inFlow && (c == '?' || c == ':')))

/-- The next character other than white space and comments, and whether a line
break comes before it. -/
def skipGap (comment crossed : Bool) : List Char → List Char × Bool
  | [] => ([], crossed)
  | c :: rest =>
    if isBreak c then skipGap false true rest
    else if comment || c == '#' then skipGap true crossed rest
    else if c == ' ' then skipGap false crossed rest
    else (c :: rest, crossed)

/-- Go on at the next token. -/
def approach (s : Scan) : Except Fault Scan := do
  let start := s.place.index == 0 && s.place.ahead.head? == some byteOrderMark
  let s := if start then s.skip 1 else s
  let (rest, crossed) := skipGap false false s.place.ahead
  let s := { s with keyAllowed := s.keyAllowed || crossed && !s.inFlow }
  let s ← (s.moveTo rest).refresh
  return s.unwind s.place.column

/-- Put the token that begins here. -/
def take (s : Scan) (c : Char) (rest : List Char) : Except Fault Scan := do
  let lineStart := s.place.column == 0
  if c == '%' && lineStart then
    let s ← s.endDocument
    let (directive, rest) ← Directive.ofChars rest
    return (s.moveTo rest).push (.directive directive)
  if lineStart && atSeparator (c :: rest) then
    let s ← s.endDocument
    return (s.skip 3).push (if c == '-' then .documentStart else .documentEnd)
  let indicates := s.inFlow || atBlank rest
  match c with
  | '[' => s.enter (.sequenceStart .flow)
  | '{' => s.enter (.mappingStart .flow)
  | ']' => s.leave .flowSequenceEnd
  | '}' => s.leave .flowMappingEnd
  | ',' => return ((← { s with keyAllowed := true }.giveUp).skip 1).push .flowEntry
  | '*' => s.read 1 Property.name .alias
  | '&' => s.read 1 Property.name .anchor
  | '!' => s.read 0 Property.tag .tag
  | '\x27' | '"' => s.read 1 (Quoted.ofChars c) (.scalar · false)
  | _ =>
    if c == '-' && atBlank rest then s.mark (.sequenceStart .block) .blockEntry true
    else if c == '?' && indicates then s.mark (.mappingStart .block) .key (!s.inFlow)
    else if c == ':' && indicates then s.colon
    else if (c == '|' || c == '>') && !s.inFlow then s.readBlock (c == '>')
    else if beginsPlain s.inFlow c rest then s.readPlain
    else .error .malformed

/-- The tokens that no candidate can change any more. -/
def settled (s : Scan) : List Token :=
  match (s.candidate :: s.outer).filterMap id |>.getLast? with
  | some candidate => (s.tokens.take candidate.position).toList
  | none => s.tokens.toList

/-- Put token after token. Every token but the last takes a character, so the
text bounds their number. -/
def run : Nat → Scan → Tokens
  | 0, s => ⟨s.settled, some .malformed⟩
  | bound + 1, s =>
    match s.refresh with
    | .error fault => ⟨s.settled, some fault⟩
    | .ok s =>
      let next := do
        let s ← s.approach
        match s.place.ahead with
        | [] => return (← s.endDocument, true)
        | c :: rest => return (← s.take c rest, false)
      match next with
      | .error fault => ⟨s.settled, some fault⟩
      | .ok (ended, true) => ⟨ended.tokens.toList, none⟩
      | .ok (s, false) => run bound s

end Scan

/-- The tokens of a text. -/
def ofText (text : List Char) : Tokens :=
  if text.all isPrintable then Scan.run (text.length + 1) { place := { ahead := text } }
  else ⟨[], some .malformed⟩

end Tokens
end NamedSignal.Yaml
