import Mathlib.Data.List.Basic
import NamedSignal.Settings

/-!
Settings files that cannot be used. Four things can keep a path from giving a document:
no file can have it, the host refuses to read it, the bytes found are no text, or the text
has no value. What the host refuses and malformed documents end in a refusal that names
the path and has the obstacle for its cause; every other obstacle shows as it is.
-/
namespace NamedSignal.Settings

/-- What keeps a path from giving a document. -/
inductive Obstacle where
  /-- No file can have the path. -/
  | unusablePath
  | unreadable (errno : Errno)
  /-- The bytes are no well-formed text. -/
  | undecodable
  /-- The text has no value. -/
  | unloadable (fault : Yaml.Fault)
  deriving DecidableEq

/-- The obstacle that a refusal was made of. -/
def Refusal.cause? : Refusal → Option Obstacle
  | unreadable _ errno => some (.unreadable errno)
  | malformed _ => some (.unloadable .malformed)
  | notMapping _ | unknownKeys _ _ | notTruth | notPath _ | notText | unknownLevel _ => none

namespace Obstacle

/-- What loading a file ends with at the obstacle. -/
def fault (file : Text) : Obstacle → Fault
  | unusablePath => .unusablePath
  | unreadable errno => .refused (.unreadable file errno)
  | undecodable => .undecodable
  | unloadable .malformed => .refused (.malformed file)
  | unloadable fault => .scalar fault

/-- Loading expects the obstacle: the host refuses, or the document is malformed. -/
def isForeseen : Obstacle → Bool
  | unreadable _ | unloadable .malformed => true
  | unusablePath | undecodable | unloadable _ => false

/-- The fault is a refusal that names the file and has the obstacle for its cause. -/
def IsToldBy (obstacle : Obstacle) (fault : Fault) (file : Text) : Prop :=
  ∃ refusal : Refusal, fault = .refused refusal ∧ file <:+: refusal.message ∧
    refusal.cause? = some obstacle

variable (file : Text) {obstacle : Obstacle}

/-- Obstacles that are not expected are not refused at all. -/
theorem fault_of_unforeseen (unforeseen : obstacle.isForeseen = false) (refusal : Refusal) :
    obstacle.fault file ≠ .refused refusal := by
  intro same
  match obstacle, unforeseen with
  | .unusablePath, _ | .undecodable, _ => cases same
  | .unloadable .outOfRange, _ | .unloadable .tooLarge, _ | .unloadable (.notBoolean _), _
  | .unloadable .emptyNumeral, _ | .unloadable .notMoment, _
  | .unloadable .momentOfCollection, _ => exact Fault.noConfusion same

/-- Just the obstacles that are expected are told of. -/
theorem isToldBy_fault_iff : obstacle.IsToldBy (obstacle.fault file) file ↔
    obstacle.isForeseen = true := by
  constructor
  · rintro ⟨refusal, told, -, -⟩
    cases foreseen : obstacle.isForeseen with
    | true => rfl
    | false => exact absurd told (fault_of_unforeseen file foreseen refusal)
  · intro foreseen
    match obstacle, foreseen with
    | .unreadable errno, _ =>
      exact ⟨.unreadable file errno, rfl, List.infix_of_mem_flatten (.tail _ (.head _)), rfl⟩
    | .unloadable .malformed, _ =>
      exact ⟨.malformed file, rfl, List.infix_of_mem_flatten (.tail _ (.head _)), rfl⟩

end Obstacle

/-- No file can have the path. -/
def IsUnusable (path : Text) : Prop :=
  (Path.Normal.ofText path).toText.contains (.char '\x00') = true

instance (path : Text) : Decidable (IsUnusable path) := inferInstanceAs (Decidable (_ = true))

/-- The path does not give a document, and the obstacle is why. -/
inductive Blocked (read : Reader) (path : Text) : Obstacle → Prop where
  | unusablePath (zero : IsUnusable path) : Blocked read path .unusablePath
  | unreadable {errno : Errno} (usable : ¬ IsUnusable path)
      (refused : read (Path.Normal.ofText path) = .error errno) :
      Blocked read path (.unreadable errno)
  | undecodable {bytes : List UInt8} (usable : ¬ IsUnusable path)
      (found : read (Path.Normal.ofText path) = .ok bytes)
      (raw : Utf8.decodeStrict? bytes = none) : Blocked read path .undecodable
  | unloadable {bytes : List UInt8} {chars : List Char} {fault : Yaml.Fault}
      (usable : ¬ IsUnusable path) (found : read (Path.Normal.ofText path) = .ok bytes)
      (decoded : Utf8.decodeStrict? bytes = some chars)
      (faulty : Yaml.Document.ofText (Text.unifyNewlines chars) = .error fault) :
      Blocked read path (.unloadable fault)

theorem loadFrom_of_blocked {read : Reader} {path : Text} {obstacle : Obstacle}
    (blocked : Blocked read path obstacle) :
    loadFrom read path = .error (obstacle.fault (Path.Normal.ofText path).toText) := by
  cases blocked with
  | unusablePath zero => exact if_pos zero
  | unreadable usable refused =>
    refine (if_neg usable).trans ?_
    simp only [refused, Obstacle.fault]
  | undecodable usable found raw =>
    refine (if_neg usable).trans ?_
    simp only [found, ofBytes, raw, Obstacle.fault]
  | @unloadable bytes chars fault usable found decoded faulty =>
    refine (if_neg usable).trans ?_
    simp only [found, ofBytes, decoded, faulty]
    cases fault <;> rfl

/-- Where a path of some bytes does not give a document, whatever the host answers, the
settings are refused with the path and the cause exactly if the host refused to read it
or the document is malformed. Else they are not refused, and the obstacle shows as it
is. -/
theorem unusable_file_told_iff {read : Reader} {raw : List UInt8} {obstacle : Obstacle}
    (blocked : Blocked read (Utf8.decode raw) obstacle) :
    let file := (Path.Normal.ofText (Utf8.decode raw)).toText
    (∀ workspace : Workspace, workspace.read = read →
      load workspace (Utf8.decode raw) = loadFrom read (Utf8.decode raw)) ∧
    loadFrom read (Utf8.decode raw) = .error (obstacle.fault file) ∧
    (obstacle.IsToldBy (obstacle.fault file) file ↔ obstacle.isForeseen = true) ∧
    (obstacle.isForeseen = false → ∀ refusal, obstacle.fault file ≠ .refused refusal) := by
  intro file
  refine ⟨fun workspace same => ?_, loadFrom_of_blocked blocked, Obstacle.isToldBy_fault_iff file,
    Obstacle.fault_of_unforeseen file⟩
  rw [load, same]

/-- A directory with one file in it. -/
def oneFile (content : List UInt8) : Workspace :=
  ⟨⟨"/", ["w"]⟩, [["w"]], [(["w", "c"], content)]⟩

/-- A bracket that is not closed is told of. -/
theorem open_bracket_told :
    let content := "proc_root: ["
    let workspace := oneFile (Utf8.encode content)
    Blocked workspace.read (Utf8.decode [0x63]) (.unloadable .malformed) ∧
    ∃ fault, load workspace (Utf8.decode [0x63]) = .error fault ∧
      Obstacle.IsToldBy (.unloadable .malformed) fault "c" := by
  intro content workspace
  have blocked : Blocked workspace.read (Utf8.decode [0x63]) (.unloadable .malformed) :=
    @Blocked.unloadable _ _ (Utf8.encode content) content.toList _ (by decide +kernel)
      (by decide +kernel) (by decide +kernel) (by decide +kernel)
  have named : (Path.Normal.ofText (Utf8.decode [0x63])).toText = "c" := by decide +kernel
  obtain ⟨same, loaded, foreseen, -⟩ := unusable_file_told_iff blocked
  rw [named] at loaded foreseen
  exact ⟨blocked, _, (same workspace rfl).trans loaded, foreseen.mpr rfl⟩

/-- A byte that is no text, a date that does not exist and a path that no file can have
are not told of, so not every file that cannot be used is refused. -/
theorem stray_byte_untold :
    (load (oneFile [0xFF]) "c" = .error .undecodable ∧
      load (oneFile (Utf8.encode "2020-13-45\n")) "c" = .error (.scalar .outOfRange) ∧
      load (oneFile []) "c\x00" = .error .unusablePath) ∧
    ¬ ∀ (read : Reader) (raw : List UInt8) (obstacle : Obstacle),
      Blocked read (Utf8.decode raw) obstacle →
      ∃ fault, loadFrom read (Utf8.decode raw) = .error fault ∧
        obstacle.IsToldBy fault (Path.Normal.ofText (Utf8.decode raw)).toText := by
  refine ⟨⟨by decide +kernel, by decide +kernel, by decide +kernel⟩, fun all => ?_⟩
  have blocked : Blocked (oneFile [0xFF]).read (Utf8.decode [0x63]) .undecodable :=
    @Blocked.undecodable _ _ [0xFF] (by decide +kernel) (by decide +kernel) (by decide +kernel)
  obtain ⟨fault, loaded, told⟩ := all _ _ _ blocked
  rw [loadFrom_of_blocked blocked, Except.error.injEq] at loaded
  exact absurd ((Obstacle.isToldBy_fault_iff _).mp (loaded ▸ told)) Bool.noConfusion

end NamedSignal.Settings
