import NamedSignal.Text
import NamedSignal.Yaml.Shape

/-!
Types of nodes (the resolver of `PyYAML`). A tag names a type; a plain scalar without a
tag has the type that its text suggests, and text is the last resort.
-/
namespace NamedSignal.Yaml

/-- The types with a meaning of their own. -/
inductive Tag where
  | null
  | bool
  | int
  | float
  | binary
  | moment
  | orderedMapping
  | pairs
  | set
  | text
  | sequence
  | mapping
  /-- The key under which other mappings are merged in. -/
  | merge
  /-- The key of the scalar that a mapping stands for. -/
  | default
  | unknown
  deriving DecidableEq, Inhabited

namespace Tag

/-- What the tags of known types begin with. -/
def common : String := "tag:yaml.org,2002:"

/-- The known types by the last parts of their tags. -/
def known : List (String × Tag) := [
  ("null", null), ("bool", bool), ("int", int), ("float", float), ("binary", binary),
  ("timestamp", moment), ("omap", orderedMapping), ("pairs", pairs), ("set", set),
  ("str", text), ("seq", sequence), ("map", mapping), ("merge", merge), ("value", default)]

/-- The type that a tag names. -/
def ofWord (tag : List Char) : Tag :=
  ((known.find? fun entry => (common ++ entry.1).toList == tag).map (·.2)).getD unknown

/-- The shapes that plain scalars are tried against, in order (`yaml.SafeLoader`). -/
def shapes : List (Tag × Pattern) := [
  (bool, Shape.bool), (float, Shape.float), (int, Shape.int), (merge, .word "<<"),
  (null, Shape.null), (moment, Shape.moment), (default, .word "="),
  (unknown, .among "!&*")]

/-- A word without one line break at its end. -/
def withoutBreak (word : List Char) : List Char :=
  if word.getLast? == some '\n' then word.dropLast else word

/-- The type that the text of a scalar suggests. One line break at the end is
not looked at. -/
def implied (t : Text) : Tag :=
  match t.chars? with
  | none => text
  | some word =>
    if word.head? == some '\n' then text
    else
      let seen := withoutBreak word
      ((shapes.find? fun shape => shape.2.accepts seen).map (·.1)).getD text

end Tag
end NamedSignal.Yaml
