import NamedSignal.Errno
import NamedSignal.Path.Normal
import NamedSignal.Text.Bytes

/-!
A tree of files and directories with a working directory. A path is walked
component by component, so a double dot leads to the directory above the one
that was reached; every component on the way must be a directory. Files only
ever come into being and grow.
-/
namespace NamedSignal

/-- The components that lead from the top to a place in the tree. -/
abbrev Place := List Text

structure Workspace where
  /-- The working directory. -/
  home : Path.Normal
  /-- The directories below the top. -/
  directories : List Place
  files : List (Place × List UInt8)

namespace Workspace

/-- The longest component, in bytes. -/
def maxComponent : Nat := 255

/-- The longest path, in bytes, with a terminator. -/
def maxPath : Nat := 4096

/-- There is a directory at the place. -/
def isDirectory (w : Workspace) (place : Place) : Bool :=
  place.isEmpty || w.directories.contains place

/-- What the file at the place holds. -/
def file? (w : Workspace) (place : Place) : Option (List UInt8) := w.files.lookup place

/-- Step from a directory to what a component leads to. -/
def child (place : Place) (component : Text) : Except Errno Place :=
  if component == Path.above then .ok place.dropLast
  else if maxComponent < (Utf8.encode component).length then .error .nameTooLong
  else .ok (place ++ [component])

/-- Step into a directory. -/
def enter (w : Workspace) (place : Place) (component : Text) : Except Errno Place := do
  let next ← child place component
  if w.isDirectory next then return next
  else if (w.file? next).isSome then .error .notDirectory
  else .error .notFound

/-- Where the walk along a path begins. -/
def start (w : Workspace) (path : Path.Normal) : Place :=
  if path.isAbsolute then [] else w.home.components

/-- The place a path leads to, whether or not something is there. -/
def locate (w : Workspace) (path : Path.Normal) : Except Errno Place := do
  if maxPath ≤ (Utf8.encode path.toText).length then .error .nameTooLong
  let above ← path.components.dropLast.foldlM w.enter (w.start path)
  match path.components.getLast? with
  | none => return above
  | some last => child above last

/-- The path names a directory. -/
def namesDirectory (w : Workspace) (path : Path.Normal) : Bool :=
  match w.locate path with
  | .ok place => w.isDirectory place
  | .error _ => false

/-- What the file that a path names holds (`Path.read_text`). -/
def read (w : Workspace) (path : Path.Normal) : Except Errno (List UInt8) := do
  let place ← w.locate path
  if w.isDirectory place then .error .isDirectory
  match w.file? place with
  | some content => return content
  | none => .error .notFound

/-- Make one directory; nothing may be at its place. -/
def makeDirectory (w : Workspace) (path : Path.Normal) : Except Errno Workspace := do
  let place ← w.locate path
  if w.isDirectory place || (w.file? place).isSome then .error .alreadyExists
  return { w with directories := w.directories ++ [place] }

/-- Make one directory, unless it is there. -/
def assureDirectory (w : Workspace) (path : Path.Normal) : Except Errno Workspace :=
  match w.makeDirectory path with
  | .ok w => .ok w
  | .error errno => if errno != .notFound && w.namesDirectory path then .ok w else .error errno

/-- A failure at a path. -/
structure Refusal where
  errno : Errno
  path : Path.Normal
  deriving DecidableEq

/-- Make a directory and those above it, unless they are there (`Path.mkdir`). What has
been made stays made if a later one fails. -/
def assureDirectories (w : Workspace) (path : Path.Normal) : Except Refusal Unit × Workspace :=
  match w.assureDirectory path with
  | .ok w => (.ok (), w)
  | .error errno =>
    if errno != .notFound || path.components.isEmpty then (.error ⟨errno, path⟩, w)
    else
      match w.assureDirectories path.parent with
      | (.error refusal, w) => (.error refusal, w)
      | (.ok (), w) =>
        match w.assureDirectory path with
        | .ok w => (.ok (), w)
        | .error errno => (.error ⟨errno, path⟩, w)
termination_by path.components.length
decreasing_by
  rename_i absent
  simp only [Bool.or_eq_true, not_or, List.isEmpty_iff] at absent
  have nonempty : 0 < path.components.length := List.length_pos_iff.mpr absent.2
  simpa [Path.Normal.parent] using Nat.sub_lt nonempty Nat.one_pos

/-- The path counted from the top, with double dots cancelled. -/
def absolute (w : Workspace) (path : Path.Normal) : Path.Normal :=
  if path.isAbsolute then path.lexical
  else { w.home with components := w.home.components ++ path.components }.lexical

/-- Put bytes at the end of the file at a place. -/
def append (w : Workspace) (place : Place) (bytes : List UInt8) : Workspace :=
  if w.files.any (·.1 == place) then
    { w with files := w.files.map fun file =>
        if file.1 == place then (file.1, file.2 ++ bytes) else file }
  else { w with files := w.files ++ [(place, bytes)] }

/-- Open a file to write at its end, and make it if it is not there. -/
def openAppend (w : Workspace) (path : Path.Normal) : Except Errno (Place × Workspace) := do
  -- Double dots are cancelled already, so the walk from the top is the same.
  let above ← path.components.dropLast.foldlM w.enter []
  match path.components.getLast? with
  | none => .error .isDirectory
  | some last =>
    let place ← child above last
    if w.isDirectory place then .error .isDirectory
    return (place, w.append place [])

/-- The name of a place below the working directory. -/
def nameBelow? (w : Workspace) (place : Place) : Option Text :=
  if w.home.components.isPrefixOf place then
    some (Text.joinWith [Path.slash] (place.drop w.home.components.length))
  else none

/-- The files below the working directory that were not the same before, in
order of their names. -/
def changes (before after : Workspace) : List (Text × List UInt8) :=
  let changed := after.files.filterMap fun (place, content) =>
    if before.file? place == some content then none
    else (after.nameBelow? place).map fun name => (name, content)
  changed.mergeSort fun a b => a.1.le b.1

end Workspace
end NamedSignal
