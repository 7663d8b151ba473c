import NamedSignal.Text.Bytes
import NamedSignal.Yaml.Character
import NamedSignal.Yaml.Token

/-!
Names of anchors and the tags of nodes. A tag is written out between angle
brackets or begins with a handle; in either form a byte may be given by two
hexadecimal digits, and the bytes of a run must be well-formed text.
-/
namespace NamedSignal.Yaml.Property

/-- The name behind the mark of an anchor or an alias, and what follows it. -/
def name (ahead : List Char) : Except Fault (Word × List Char) :=
  let name := ahead.takeWhile isNameChar
  let rest := ahead.dropWhile isNameChar
  let closed := atBlank rest || rest.head?.any "?:,]\x7d%@\x60".toList.contains
  if name.isEmpty || !closed then .error .malformed else .ok (name, rest)

/-- The text of a run of bytes; the last byte stands first. -/
def settle (reversed : List UInt8) : Except Fault Word :=
  match Utf8.decodeStrict? reversed.reverse with
  | some chars => .ok chars
  | none => .error .malformed

/-- Read the characters of a tag; bytes of a run and characters so far stand in
reverse. -/
def scanTag (bytes : List UInt8) (reversed : Word) (ahead : List Char) :
    Except Fault (Word × List Char) := do
  match ahead with
  | '%' :: a :: b :: rest =>
    match hexDigit? a, hexDigit? b with
    | some high, some low => scanTag (UInt8.ofNat (high * 16 + low) :: bytes) reversed rest
    | _, _ => .error .malformed
  | '%' :: _ => .error .malformed
  | c :: rest =>
    let reversed := (← settle bytes).reverse ++ reversed
    if isTagChar c then scanTag [] (c :: reversed) rest
    else return (reversed.reverse, ahead)
  | [] => return (((← settle bytes).reverse ++ reversed).reverse, [])

/-- The characters of a tag, at least one, and what follows them. -/
def tagChars (ahead : List Char) : Except Fault (Word × List Char) :=
  if ahead.head?.any isTagChar then scanTag [] [] ahead else .error .malformed

/-- A handle: a mark of its own, or a name between two. -/
def handle (ahead : List Char) : Except Fault (Word × List Char) :=
  match ahead with
  | '!' :: rest =>
    if rest.head? == some ' ' then .ok (['!'], rest)
    else
      let name := rest.takeWhile isNameChar
      match rest.dropWhile isNameChar with
      | '!' :: rest => .ok ('!' :: name ++ ['!'], rest)
      | _ => .error .malformed
  | _ => .error .malformed

/-- A mark stands in the text before the next space. -/
def hasHandle (ahead : List Char) : Bool :=
  (ahead.takeWhile fun c => c != ' ' && !isBreak c).contains '!'

/-- The tag at whose first mark the text begins, and what follows the tag. -/
def tag (ahead : List Char) : Except Fault (TagText × List Char) := do
  let inside := ahead.drop 1
  let (tag, rest) ←
    match inside with
    | '<' :: written =>
      match ← tagChars written with
      | (tag, '>' :: rest) => pure (TagText.verbatim tag, rest)
      | _ => .error .malformed
    | _ =>
      if atBlank inside then pure (TagText.verbatim ['!'], inside)
      else
        let (handle, written) ← if hasHandle inside then handle ahead else pure (['!'], inside)
        let (tag, rest) ← tagChars written
        pure (TagText.handled handle tag, rest)
  if atSpace rest then return (tag, rest) else .error .malformed

end NamedSignal.Yaml.Property
