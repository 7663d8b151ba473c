import NamedSignal.Text

/-!
Slash-separated paths as plain text. Joining restarts at an absolute part and
never doubles a slash; the base name is the last component, slashes at the end
ignored.
-/
namespace NamedSignal.Path

/-- The symbol that separates components. -/
def slash : Symbol := .char '/'

/-- Put one part behind a path. -/
def joinPart (path part : Text) : Text :=
  if part.head? == some slash then part
  else if path.isEmpty || path.getLast? == some slash then path ++ part
  else path ++ slash :: part

/-- Put parts behind a root, one after another (`os.path.join`). -/
def join (root : Text) (parts : List Text) : Text := parts.foldl joinPart root

/-- The last component (`base_name`). A path of slashes only is its own base name, and the
empty path names the place itself. -/
def baseName (path : Text) : Text :=
  let stripped := path.trimEnd (· == slash)
  if stripped.isEmpty then (if path.isEmpty then Text.ofString "." else [slash])
  else (stripped.reverse.takeWhile (· != slash)).reverse

end NamedSignal.Path
