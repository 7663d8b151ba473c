import NamedSignal.Yaml.Graph.Reading
import NamedSignal.Yaml.Scalar.Binary
import NamedSignal.Yaml.Scalar.Moment
import NamedSignal.Yaml.Scalar.Number

/-!
The meaning of a document (the safe constructor of `PyYAML`). Collections are taken one
after another from the root outward, each node once, so a collection inside itself is no
trouble and of several faults the one nearest to the root shows. Only the root's entries
are kept: of a value further inside it matters that it exists, not what it is.
-/
namespace NamedSignal.Yaml

/-- What a document says. -/
inductive Document where
  /-- Nothing, or a null. -/
  | empty
  /-- A mapping. Each key comes once, where it first appears, with its last
  value. -/
  | mapping (entries : List (Value × Value))
  /-- A value of another kind. -/
  | other
  deriving DecidableEq

namespace Document

/-- A document whose meaning is known in part. -/
structure Partial where
  graph : Graph
  values : Array (Option Value)
  /-- Collections that have been met but not looked into. -/
  waiting : List Nat := []

/-- A step in finding out the meaning of a document. -/
abbrev Interpret := StateT Partial (Except Fault)

/-- The text of a scalar. A mapping stands for the scalar under its default
key. -/
def scalarText (graph : Graph) : Nat → Nat → Except Fault Text
  | 0, _ => .error .malformed
  | bound + 1, number =>
    match (graph.node number).content with
    | .scalar text => .ok text
    | .sequence _ => .error .malformed
    | .mapping entries =>
      match entries.find? fun entry => (graph.node entry.1).tag == .default with
      | some entry => scalarText graph bound entry.2
      | none => .error .malformed

/-- The truth values by their words. -/
def truthWords : List (String × Bool) :=
  [("yes", true), ("no", false), ("true", true), ("false", false), ("on", true), ("off", false)]

/-- The truth value a scalar stands for. -/
def truth (text : Text) : Except Fault Bool :=
  let word := Number.lower text
  match truthWords.find? fun entry => Text.ofString entry.1 == word with
  | some entry => .ok entry.2
  | none => .error (.notBoolean word)

/-- The types whose values are collections. -/
def isCollection (tag : Tag) : Bool :=
  [Tag.sequence, .mapping, .set, .orderedMapping, .pairs].contains tag

/-- The value of a scalar of some type. -/
def scalarValue (graph : Graph) (number : Nat) : Except Fault Value := do
  let node := graph.node number
  let read := scalarText graph (graph.nodes.size + 1) number
  match node.tag with
  | .null => let _ ← read; return .null
  | .bool => return .bool (← truth (← read))
  | .int => return .int (← Number.int (← read))
  | .float => Number.float number (← read)
  | .binary => return .bytes (← Binary.ofText (← read))
  | .moment =>
    let text ← read
    match node.content with
    | .scalar _ => Moment.ofText text
    | _ => .error .momentOfCollection
  | .text => return .text (← read)
  | _ => .error .malformed

/-- The value of a node. A collection is put on the list of those to look
into. -/
def visit (number : Nat) : Interpret Value := do
  let state ← get
  match state.values[number]?.join with
  | some value => return value
  | none =>
    if isCollection (state.graph.node number).tag then
      set { state with
        values := state.values.setIfInBounds number (some .collection)
        waiting := state.waiting ++ [number] }
      return .collection
    else
      let value ← scalarValue state.graph number
      set { state with values := state.values.setIfInBounds number (some value) }
      return value

/-- The entries of a mapping, and a fault if a node is none. -/
def entriesOf (number : Nat) : Interpret (List (Nat × Nat)) := do
  match ((← get).graph.node number).content with
  | .mapping entries => return entries
  | _ => throw .malformed

/-- Give a mapping other entries. -/
def replaceEntries (number : Nat) (entries : List (Nat × Nat)) : Interpret Unit :=
  modify fun state =>
    let node := { state.graph.node number with content := .mapping entries }
    { state with graph := state.graph.replace number node }

/-- Take a default key for a text from now on. -/
def retag (number : Nat) : Interpret Unit :=
  modify fun state =>
    let node := state.graph.node number
    if node.tag == .default then
      { state with graph := state.graph.replace number { node with tag := .text } }
    else state

/-- Put the entries of merged mappings in front of a mapping's own, so that its
own win; of several mappings merged under one key the first wins. Each step
removes a merge key. -/
def merge : Nat → Nat → List (Nat × Nat) → Interpret Unit
  | 0, _, _ => throw .malformed
  | bound + 1, number, merged => do
    let entries ← entriesOf number
    let graph := (← get).graph
    match entries.findIdx? fun entry => (graph.node entry.1).tag == .merge with
    | none =>
      entries.forM fun entry => retag entry.1
      replaceEntries number (merged ++ entries)
    | some index =>
      replaceEntries number (entries.eraseIdx index)
      let source := (entries[index]?.map (·.2)).getD number
      let sources ← match ((← get).graph.node source).content with
        | .scalar _ => throw .malformed
        | .mapping _ => pure [source]
        | .sequence items => pure items
      let found ← sources.mapM fun source => do
        let _ ← entriesOf source
        merge bound source []
        entriesOf source
      merge bound number (merged ++ found.reverse.flatten)

/-- A bound for the steps of merging. -/
def mergeBound (graph : Graph) : Nat :=
  graph.nodes.foldl (fun total node =>
    match node.content with
    | .mapping entries => total + 2 * entries.length
    | _ => total) 2

/-- Give a key a value; a key that is there already stays as it is. -/
def assign (entries : List (Value × Value)) (key value : Value) : List (Value × Value) :=
  if entries.any fun entry => entry.1.same key then
    entries.map fun entry => if entry.1.same key then (entry.1, value) else entry
  else entries ++ [(key, value)]

/-- The values of the entries of a mapping, merged ones included. -/
def visitMapping (number : Nat) : Interpret (List (Value × Value)) := do
  let _ ← entriesOf number
  merge (mergeBound (← get).graph) number []
  (← entriesOf number).foldlM (fun found entry => do
    let key ← visit entry.1
    if !key.isKey then throw .malformed
    return assign found key (← visit entry.2)) []

/-- Look into a sequence whose items are mappings of one entry. -/
def visitPairs (items : List Nat) : Interpret Unit :=
  items.forM fun item => do
    match ← entriesOf item with
    | [(key, value)] =>
      let _ ← visit key
      let _ ← visit value
    | _ => throw .malformed

/-- Look into a collection. -/
def look (number : Nat) : Interpret (List (Value × Value)) := do
  let node := (← get).graph.node number
  match node.tag, node.content with
  | .sequence, .sequence items => items.forM fun item => do let _ ← visit item
  | .orderedMapping, .sequence items | .pairs, .sequence items => visitPairs items
  | .mapping, .mapping _ | .set, .mapping _ => return ← visitMapping number
  | _, _ => throw .malformed
  return []

/-- Look into every collection that waits, and those met on the way. No node
waits twice. -/
def lookAll : Nat → Interpret Unit
  | 0 => return ()
  | bound + 1 => do
    let state ← get
    match state.waiting with
    | [] => return ()
    | number :: rest =>
      set { state with waiting := rest }
      let _ ← look number
      lookAll bound

/-- The meaning of a graph. -/
def interpret (root : Nat) : Interpret Document := do
  let value ← visit root
  let state ← get
  let entries ← if state.waiting.isEmpty then pure [] else do
    set { state with waiting := [] }
    look root
  lookAll state.graph.nodes.size
  match value with
  | .null => return .empty
  | .collection =>
    if (state.graph.node root).tag == .mapping then return .mapping entries else return .other
  | _ => return .other

/-- The meaning of a text (`yaml.safe_load`). -/
def ofText (text : List Char) : Except Fault Document := do
  let graph ← Graph.ofTokens (Tokens.ofText text)
  match graph.root with
  | none => return .empty
  | some root =>
    let start : Partial := { graph, values := Array.replicate graph.nodes.size none }
    (interpret root).run' start

end Document
end NamedSignal.Yaml
