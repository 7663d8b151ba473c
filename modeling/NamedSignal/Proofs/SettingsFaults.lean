import NamedSignal.Program

/-!
Which settings files are faulty without being refused. A file is refused with a
reason if it cannot be read, is no document, is no mapping or has wrong keys or
values. What is left are files whose bytes or scalars make no sense, paths that
no file can have, and unknown keys that cannot be told.
-/
namespace NamedSignal.Settings

/-- A fault is met that is no refusal. -/
def isUnrefused {α : Type} : Except Fault α → Bool
  | .error (.refused _) | .ok _ => false
  | .error _ => true

variable {α β : Type}

theorem isUnrefused_iff {result : Except Fault α} : isUnrefused result = true ↔
    ∃ fault, result = .error fault ∧ ∀ refusal, fault ≠ .refused refusal := by
  cases result with
  | ok value => simp [isUnrefused]
  | error fault => cases fault <;> simp [isUnrefused]

/-- A part that is refused or succeeds adds no other fault to what is before it. -/
theorem isUnrefused_bind (first : Except Fault α) {rest : α → Except Fault β}
    (sound : ∀ value, isUnrefused (rest value) = false) :
    isUnrefused (first >>= rest) = isUnrefused first := by
  cases first with
  | ok value => exact sound value
  | error fault => cases fault <;> rfl

theorem isUnrefused_pure_bind {first : Except Fault α} {rest : α → Except Fault β}
    (clear : isUnrefused first = false) (sound : ∀ value, isUnrefused (rest value) = false) :
    isUnrefused (first >>= rest) = false :=
  (isUnrefused_bind first sound).trans clear

/-- Values of the wrong type are refused, so once the keys are known there is no
other fault. -/
private theorem ofDocument_keys (file : Text) (entries : Entries) :
    isUnrefused (ofDocument file (.mapping entries)) = isUnrefused (checkKeys file entries) := by
  have truths : isUnrefused (truth entries) = false := by
    unfold truth
    split <;> rfl
  have paths : ∀ key, isUnrefused (path entries key) = false := by
    intro key
    unfold path
    split <;> rfl
  have levels : isUnrefused (levelName entries) = false := by
    unfold levelName
    split <;> rfl
  -- Behind the keys every part is a value, refused or fine, and so is the level.
  refine isUnrefused_bind _ fun _ => ?_
  refine isUnrefused_pure_bind truths fun ignoreVanished => ?_
  refine isUnrefused_pure_bind (paths .root) fun root => ?_
  refine isUnrefused_pure_bind (paths .logFile) fun logFile => ?_
  refine isUnrefused_pure_bind levels fun logLevel => ?_
  simp only
  split <;> rfl

/-- Unknown keys that cannot be put in order, or one of which cannot be told. -/
def keysUntellable (entries : Entries) : Bool :=
  !(unknown entries).isEmpty &&
    ((Yaml.Value.sort? (unknown entries)).bind (·.mapM Yaml.Value.toText?)).isNone

private theorem checkKeys_unrefused (file : Text) (entries : Entries) :
    isUnrefused (checkKeys file entries) = keysUntellable entries := by
  unfold checkKeys keysUntellable
  cases found : unknown entries with
  | nil => rfl
  | cons key rest =>
    simp only
    cases sorted : Yaml.Value.sort? (key :: rest) with
    | none => rfl
    | some keys =>
      simp only [Option.bind_some]
      cases keys.mapM Yaml.Value.toText? <;> rfl

/-- Bytes that give neither settings nor a refusal. -/
inductive Unsound (bytes : List UInt8) : Prop where
  /-- The bytes are no text. -/
  | undecodable (raw : Utf8.decodeStrict? bytes = none)
  /-- A scalar does not fit its type. -/
  | scalar {chars : List Char} {fault : Yaml.Fault}
      (decoded : Utf8.decodeStrict? bytes = some chars)
      (faulty : Yaml.Document.ofText (Text.unifyNewlines chars) = .error fault)
      (other : fault ≠ .malformed)
  /-- Unknown keys cannot be told. -/
  | keys {chars : List Char} {entries : Entries}
      (decoded : Utf8.decodeStrict? bytes = some chars)
      (mapping : Yaml.Document.ofText (Text.unifyNewlines chars) = .ok (.mapping entries))
      (untellable : keysUntellable entries = true)

/-- Bytes meet a fault that is no refusal exactly if they are unsound. -/
theorem ofBytes_unrefused_iff (file : Text) (bytes : List UInt8) :
    isUnrefused (ofBytes file bytes) = true ↔ Unsound bytes := by
  unfold ofBytes
  constructor
  · intro unrefused
    cases decoded : Utf8.decodeStrict? bytes with
    | none => exact .undecodable decoded
    | some chars =>
      simp only [decoded] at unrefused
      generalize given : Yaml.Document.ofText (Text.unifyNewlines chars) = document at unrefused
      match document with
      | .ok .empty | .ok .other | .error .malformed => cases unrefused
      | .ok (.mapping entries) =>
        rw [ofDocument_keys, checkKeys_unrefused] at unrefused
        exact .keys decoded given unrefused
      | .error .outOfRange | .error .tooLarge | .error (.notBoolean _) | .error .emptyNumeral
      | .error .notMoment | .error .momentOfCollection =>
        exact .scalar decoded given (by simp)
  · intro unsound
    cases unsound with
    | undecodable raw => simp only [raw, isUnrefused]
    | @scalar chars fault decoded faulty other =>
      simp only [decoded, faulty]
      cases fault with
      | malformed => exact absurd rfl other
      | _ => rfl
    | keys decoded mapping untellable =>
      simp only [decoded, mapping]
      rw [ofDocument_keys, checkKeys_unrefused, untellable]

/-- A file whose path no file can have, or whose bytes are unsound. -/
inductive UnsoundFile (workspace : Workspace) (word : Text) : Prop where
  | path (zero : (Path.Normal.ofText word).toText.contains (.char '\x00') = true)
  | content {bytes : List UInt8} (read : workspace.read (Path.Normal.ofText word) = .ok bytes)
      (unsound : Unsound bytes)

/-- Loading a file meets a fault that is no refusal exactly if the file is unsound. -/
theorem load_unrefused_iff (workspace : Workspace) (word : Text) :
    isUnrefused (load workspace word) = true ↔ UnsoundFile workspace word := by
  unfold load loadFrom
  by_cases zero : (Path.Normal.ofText word).toText.contains (.char '\x00') = true
  · rw [if_pos zero]
    exact iff_of_true rfl (.path zero)
  · rw [if_neg zero]
    constructor
    · intro unrefused
      cases read : workspace.read (Path.Normal.ofText word) with
      | error errno => simp [read, isUnrefused] at unrefused
      | ok bytes =>
        rw [read] at unrefused
        exact .content read ((ofBytes_unrefused_iff _ bytes).mp unrefused)
    · intro unsound
      cases unsound with
      | path holds => exact absurd holds zero
      | content read unsound =>
        rw [read]
        exact (ofBytes_unrefused_iff _ _).mpr unsound

end NamedSignal.Settings

namespace NamedSignal.Program

/-- A plan meets a fault that is no refusal exactly if its settings file does;
flags and levels are refused at worst. -/
theorem plan_unrefused_iff (workspace : Workspace) (options : Options) :
    Settings.isUnrefused (plan workspace options) = true ↔
      ∃ word, options.flags.config = some (.word word) ∧ word ≠ [] ∧
        Settings.UnsoundFile workspace word := by
  have base : Settings.isUnrefused (plan workspace options) =
      Settings.isUnrefused (baseSettings workspace options.flags) := by
    refine Settings.isUnrefused_bind _ fun settings => ?_
    simp only
    split <;> rfl
  rw [base]
  unfold baseSettings
  match options.flags.config with
  | none => simp [Settings.isUnrefused]
  | some .nothing => simp [Settings.isUnrefused]
  | some (.word []) => simp [Settings.isUnrefused]
  | some (.word (first :: rest)) =>
    simp only [Settings.load_unrefused_iff, Option.some.injEq, Argument.word.injEq]
    simp

end NamedSignal.Program
