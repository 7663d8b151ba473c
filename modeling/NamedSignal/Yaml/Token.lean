import NamedSignal.Text

/-!
Tokens of a document. Indentation has become tokens of its own: a block
collection starts and ends like one in brackets.
-/
namespace NamedSignal.Yaml

/-- A name or a part of a tag. -/
abbrev Word := List Char

/-- A line that says something about the document below it. -/
inductive Directive where
  /-- The version of the format by its first number. -/
  | version (major : Nat)
  /-- A handle and the start of the tags it stands for. -/
  | tagStart (handle start : Word)
  /-- A directive of another kind; it says nothing. -/
  | other
  deriving DecidableEq

/-- A tag as it is written. -/
inductive TagText where
  | verbatim (tag : Word)
  | handled (handle rest : Word)
  deriving DecidableEq

/-- How a collection is written. -/
inductive Style where
  | block
  | flow
  deriving DecidableEq

inductive Token where
  | directive (directive : Directive)
  | documentStart
  | documentEnd
  | sequenceStart (style : Style)
  | mappingStart (style : Style)
  /-- The end of a block collection of either kind. -/
  | blockEnd
  | flowSequenceEnd
  | flowMappingEnd
  | blockEntry
  | flowEntry
  | key
  | value
  | alias (name : Word)
  | anchor (name : Word)
  | tag (tag : TagText)
  /-- A scalar, and whether it stands without quotes and marks. -/
  | scalar (text : Text) (plain : Bool)
  deriving DecidableEq

end NamedSignal.Yaml
