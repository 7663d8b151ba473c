import NamedSignal.Path

/-!
Paths in normal form: a root and components, none of them empty or a single
dot. Two slashes at the start are a root of their own, and a double dot is kept
because its meaning depends on the directories passed through.
-/
namespace NamedSignal.Path

/-- A path without empty components and single dots (`pathlib.Path`). -/
structure Normal where
  root : Text
  components : List Text
  deriving DecidableEq

/-- The component that leads to the directory above. -/
def above : Text := [.char '.', .char '.']

namespace Normal

/-- Split a path into its root and its components. -/
def ofText (path : Text) : Normal :=
  let slashes := (path.takeWhile (· == slash)).length
  { root := List.replicate (if slashes == 2 then 2 else min slashes 1) slash
    components := (path.splitOn slash).filter fun c => !c.isEmpty && c != [.char '.'] }

/-- The path is counted from the top. -/
def isAbsolute (p : Normal) : Bool := !p.root.isEmpty

/-- The normal form as text; with neither root nor component it is a dot. -/
def toText (p : Normal) : Text :=
  if p.root.isEmpty && p.components.isEmpty then [.char '.']
  else p.root ++ Text.joinWith [slash] p.components

/-- The path without its last component (`Path.parent`). -/
def parent (p : Normal) : Normal := { p with components := p.components.dropLast }

/-- Cancel each component against a double dot behind it (`os.path.abspath`). A double dot
with nothing left to cancel stays, except below a root. -/
def lexical (p : Normal) : Normal :=
  let step (kept : List Text) (c : Text) : List Text :=
    if c != above then c :: kept
    else match kept with
    | [] => if p.isAbsolute then [] else [c]
    | last :: rest => if last == above then c :: kept else rest
  { p with components := (p.components.foldl step []).reverse }

end Normal
end NamedSignal.Path
