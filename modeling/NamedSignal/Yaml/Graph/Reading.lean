import NamedSignal.Yaml.Graph
import NamedSignal.Yaml.Tokens

/-!
The document that tokens make up (the parser and the composer of `PyYAML`). A text holds
at most one document. Nodes are numbered as they begin, so an alias inside an anchored
collection already leads to it; an anchor names one node only.
-/
namespace NamedSignal.Yaml.Graph

/-- A document read in part. -/
structure Partial where
  tokens : List Token
  /-- What the tokens end with, if they do not end the text. -/
  fault : Option Fault
  nodes : Array Node := #[]
  anchors : List (Word × Nat) := []
  /-- The handles of tags and what they stand for. -/
  handles : List (Word × Word) := []

/-- A step in reading a document. -/
abbrev Read := StateT Partial (Except Fault)

/-- The next token. -/
def peek : Read (Option Token) := do
  let reading ← get
  match reading.tokens, reading.fault with
  | token :: _, _ => return some token
  | [], none => return none
  | [], some fault => throw fault

/-- Leave the next token behind. -/
def advance : Read Unit := modify fun reading => { reading with tokens := reading.tokens.tail }

/-- Leave the next token behind and look at the one after it. -/
def advancePeek : Read (Option Token) := do advance; peek

/-- Give a new node a number, and its anchor the node. -/
def add (anchor : Option Word) (node : Node) : Read Nat := do
  let reading ← get
  let number := reading.nodes.size
  let anchors ← match anchor with
    | none => pure reading.anchors
    | some name =>
      if (reading.anchors.lookup name).isSome then throw .malformed
      pure ((name, number) :: reading.anchors)
  set { reading with nodes := reading.nodes.push node, anchors }
  return number

/-- Give a collection its content. -/
def fill (number : Nat) (content : Content) : Read Unit :=
  modify fun reading =>
    { reading with nodes := reading.nodes.modify number fun node => { node with content } }

/-- The node of a scalar that is left out. -/
def addNull : Read Nat := add none ⟨.implied [], .scalar []⟩

/-- The tag that is meant by one that is written. -/
def resolve (tag : TagText) : Read Word := do
  match tag with
  | .verbatim tag => return tag
  | .handled handle rest =>
    match (← get).handles.lookup handle with
    | some start => return start ++ rest
    | none => throw .malformed

/-- The anchor and the tag in front of a node, in either order. -/
def properties : Read (Option Word × Option Word) := do
  match ← peek with
  | some (.anchor name) =>
    match ← advancePeek with
    | some (.tag tag) => advance; return (some name, some (← resolve tag))
    | _ => return (some name, none)
  | some (.tag tag) =>
    match ← advancePeek with
    | some (.anchor name) => advance; return (some name, some (← resolve tag))
    | _ => return (none, some (← resolve tag))
  | _ => return (none, none)

/-- The tag that asks for the type that would do without a tag. -/
def unspecific : Word := ['!']

/-- The type of a scalar. Without a tag, one in quotes is a text. -/
def scalarTag (tag : Option Word) (text : Text) (plain : Bool) : Tag :=
  match tag with
  | none => if plain then .implied text else .text
  | some word => if word == unspecific then .implied text else .ofWord word

/-- The type of a collection. -/
def collectionTag (tag : Option Word) (usual : Tag) : Tag :=
  match tag with
  | none => usual
  | some word => if word == unspecific then usual else .ofWord word

/-- The next token is one of some. -/
def isAmong (next : Option Token) (tokens : List Token) : Bool := next.any tokens.contains

/-- Where a node stands. -/
inductive Position where
  /-- Between brackets. -/
  | flow
  | block
  /-- In a block mapping, where a sequence need not be indented. -/
  | inMapping
  deriving DecidableEq

mutual

/-- Read a node; every call reads a token or is followed by one that does. -/
def readNode : Nat → Position → Read Nat
  | 0, _ => throw .malformed
  | bound + 1, position => do
    if let some (.alias name) ← peek then
      advance
      match (← get).anchors.lookup name with
      | some number => return number
      | none => throw .malformed
    let (anchor, tag) ← properties
    let sequence (read : Read (List Nat)) : Read Nat := do
      let number ← add anchor ⟨collectionTag tag .sequence, .sequence []⟩
      fill number (.sequence (← read))
      return number
    let mapping (read : Read (List (Nat × Nat))) : Read Nat := do
      let number ← add anchor ⟨collectionTag tag .mapping, .mapping []⟩
      fill number (.mapping (← read))
      return number
    let missing : Read Nat := do
      if anchor.isNone && tag.isNone then throw .malformed
      add anchor ⟨scalarTag tag [] true, .scalar []⟩
    match ← peek with
    | some (.scalar text plain) =>
      advance
      add anchor ⟨scalarTag tag text plain, .scalar text⟩
    | some (.sequenceStart .flow) => sequence do advance; flowItems bound true
    | some (.mappingStart .flow) => mapping do advance; flowEntries bound true
    | some (.sequenceStart .block) =>
      if position == .flow then missing else sequence do advance; blockItems bound false
    | some (.mappingStart .block) =>
      if position == .flow then missing else mapping do advance; blockEntries bound
    | some .blockEntry =>
      if position == .inMapping then sequence (blockItems bound true) else missing
    | _ => missing

/-- Read a node, or take it for left out if one of some tokens comes next. -/
def readNodeUnless : Nat → Position → List Token → Read Nat
  | 0, _, _ => throw .malformed
  | bound + 1, position, ends => do
    if isAmong (← peek) ends then addNull else readNode bound position

/-- Read the value of a key, or take it for left out. -/
def readValue : Nat → Position → List Token → Read Nat
  | 0, _, _ => throw .malformed
  | bound + 1, position, ends => do
    match ← peek with
    | some .value => advance; readNodeUnless bound position ends
    | _ => addNull

/-- Read the items of a block sequence. One that is not indented has no token
at its end. -/
def blockItems : Nat → Bool → Read (List Nat)
  | 0, _ => throw .malformed
  | bound + 1, indentless => do
    match ← peek with
    | some .blockEntry =>
      advance
      let ends :=
        if indentless then [.blockEntry, .key, .value, .blockEnd] else [.blockEntry, .blockEnd]
      let item ← readNodeUnless bound .block ends
      return item :: (← blockItems bound indentless)
    | next =>
      if indentless then return []
      if next != some .blockEnd then throw .malformed
      advance
      return []

/-- Read the entries of a block mapping. -/
def blockEntries : Nat → Read (List (Nat × Nat))
  | 0 => throw .malformed
  | bound + 1 => do
    match ← peek with
    | some .key =>
      advance
      let ends := [.key, .value, .blockEnd]
      let key ← readNodeUnless bound .inMapping ends
      let value ← readValue bound .inMapping ends
      return (key, value) :: (← blockEntries bound)
    | some .blockEnd => advance; return []
    | _ => throw .malformed

/-- Read the items of a sequence in brackets. A key makes an item a mapping of
one entry. -/
def flowItems : Nat → Bool → Read (List Nat)
  | 0, _ => throw .malformed
  | bound + 1, first => do
    let ending := Token.flowSequenceEnd
    let next ← peek
    if next == some ending then advance; return []
    if !first then
      if next != some .flowEntry then throw .malformed
      advance
    match ← peek with
    | some .flowSequenceEnd => advance; return []
    | some .key =>
      advance
      let pair ← add none ⟨.mapping, .mapping []⟩
      let key ← readNodeUnless bound .flow [.value, .flowEntry, ending]
      let value ← readValue bound .flow [.flowEntry, ending]
      fill pair (.mapping [(key, value)])
      return pair :: (← flowItems bound false)
    | _ =>
      let item ← readNode bound .flow
      return item :: (← flowItems bound false)

/-- Read the entries of a mapping in brackets. -/
def flowEntries : Nat → Bool → Read (List (Nat × Nat))
  | 0, _ => throw .malformed
  | bound + 1, first => do
    let ending := Token.flowMappingEnd
    let next ← peek
    if next == some ending then advance; return []
    if !first then
      if next != some .flowEntry then throw .malformed
      advance
    match ← peek with
    | some .flowMappingEnd => advance; return []
    | some .key =>
      advance
      let key ← readNodeUnless bound .flow [.value, .flowEntry, ending]
      let value ← readValue bound .flow [.flowEntry, ending]
      return (key, value) :: (← flowEntries bound false)
    | _ =>
      let key ← readNode bound .flow
      let value ← addNull
      return (key, value) :: (← flowEntries bound false)

end

/-- The handles that need no directive. -/
def usualHandles : List (Word × Word) :=
  [(['!'], ['!']), (['!', '!'], Tag.common.toList)]

/-- Read directives; the version may be stated once, and each handle once. -/
def readDirectives (versioned : Bool) (handles : List (Word × Word)) :
    List Token → Except Fault (List (Word × Word) × List Token)
  | .directive directive :: rest =>
    match directive with
    | .version major =>
      if versioned || major != 1 then .error .malformed else readDirectives true handles rest
    | .tagStart handle start =>
      if (handles.lookup handle).isSome then .error .malformed
      else readDirectives versioned ((handle, start) :: handles) rest
    | .other => readDirectives versioned handles rest
  | tokens => .ok (handles, tokens)

/-- Read the directives that are next. -/
def directives : Read Unit := do
  let (handles, tokens) ← readDirectives false [] (← get).tokens
  modify fun reading => { reading with tokens, handles := handles ++ usualHandles }

/-- Read the one document of a text. -/
def readDocument (bound : Nat) : Read (Option Nat) := do
  match ← peek with
  | none => return none
  | some (.directive _) | some .documentStart =>
    directives
    if (← peek) != some .documentStart then throw .malformed
    match ← advancePeek with
    | none | some (.directive _) | some .documentStart | some .documentEnd =>
      return some (← addNull)
    | _ => return some (← readNode bound .block)
  | _ =>
    modify fun reading => { reading with handles := usualHandles }
    return some (← readNode bound .block)

/-- Read to the end of the text, where no other document may begin. -/
def readEnd : Read Unit := do
  modify fun reading => { reading with tokens := reading.tokens.dropWhile (· == .documentEnd) }
  if (← peek).isSome then
    directives
    let _ ← peek
    throw .malformed

/-- The document that tokens make up (`yaml.compose`). -/
def ofTokens (tokens : Tokens) : Except Fault Graph := do
  let bound := 4 * (tokens.tokens.length + 1)
  let read : Read (Option Nat) := do
    let root ← readDocument bound
    if root.isSome then readEnd
    return root
  let (root, reading) ← read.run { tokens := tokens.tokens, fault := tokens.fault }
  return { nodes := reading.nodes, root }

end NamedSignal.Yaml.Graph
