import NamedSignal.Proofs.CommandLine

/-!
Command lines that differ for the level only. The level flag may be written in any way
and have its value in the same word or in the next one, and may come several times. Such
lines are read alike, word by word, so they come to the same but for the level.
-/
namespace NamedSignal

namespace Options

/-- The flags with another level. -/
def atLevel (value : Option Argument) (options : Options) : Options :=
  { options with flags := { options.flags with logLevel := value } }

namespace Found

/-- What has been found, with another level. -/
def atLevel (found : Found) (value : Option Argument) : Found :=
  { found with flags := { found.flags with logLevel := value } }

variable (found : Found) (value : Option Argument)

/-- A flag is set at another level too. -/
theorem set_atLevel (flag : Flag) (given : Argument) :
    ∃ later, (found.atLevel value).set flag given = (found.set flag given).atLevel later := by
  cases flag with
  | logLevel => exact ⟨some given, rfl⟩
  | _ => exact ⟨value, rfl⟩

theorem place_atLevel (word : Text) :
    (found.atLevel value).place word = (found.place word).map (·.atLevel value) := by
  obtain ⟨target, signal, flags, extras, placed⟩ := found
  cases target with
  | none => rfl
  | some target =>
    cases signal with
    | some signal => rfl
    | none =>
      simp only [place, atLevel]
      cases Signal.parse word <;> rfl

end Found

/-- The request with another level. -/
def Request.atLevel (value : Option Argument) : Request → Request
  | help => help
  | run options => run (options.atLevel value)

/-- The readings are the same, but perhaps for the level. -/
def SameReading (first second : Except Error Request) : Prop :=
  ∃ value, second = first.map (Request.atLevel value)

/-- The level flag and its value, in one word or in two. -/
inductive LevelPart : List Word → Argument → Prop where
  | joined (spelling value : Text) :
      LevelPart [.flag .logLevel spelling (some value)] (Argument.ofText value)
  | apart (spelling value : Text) :
      LevelPart [.flag .logLevel spelling none, .plain value] (.word value)

/-- The words are the same, but for what is given for the level. -/
inductive SameButLevel : List Word → List Word → Prop where
  | nil : SameButLevel [] []
  | same (word : Word) {first second : List Word} (later : SameButLevel first second) :
      SameButLevel (word :: first) (word :: second)
  | level {part other first second : List Word} {value given : Argument}
      (one : LevelPart part value) (two : LevelPart other given)
      (later : SameButLevel first second) : SameButLevel (part ++ first) (other ++ second)

/-- A flag takes the plain word behind it for its value. -/
def readValue (found : Found) (flag : Flag) : List Word → Except Error Request
  | .plain word :: rest => read (found.set flag (.word word)) rest
  | _ => .error (.missingValue flag)

theorem read_flag_none (found : Found) (flag : Flag) (spelling : Text) (rest : List Word) :
    read found (.flag flag spelling none :: rest) =
      if flag == .help then .ok .help
      else if !flag.takesValue then read (found.set flag .nothing) rest
      else readValue found flag rest := by
  rw [read.eq_def]
  simp only
  split
  · rfl
  · split
    · rfl
    · unfold readValue
      split <;> simp_all

namespace SameButLevel

variable {first second : List Word}

/-- Both lists of words are read alike, whatever level has been found before. -/
def ReadAlike (first second : List Word) : Prop :=
  ∀ found value, SameReading (read found first) (read (Found.atLevel found value) second)

/-- Both are also read alike behind a flag that still has no value. -/
def ValuedAlike (first second : List Word) : Prop :=
  ∀ found value flag,
    SameReading (readValue found flag first) (readValue (found.atLevel value) flag second)

theorem ReadAlike.set (alike : ReadAlike first second) (found : Found) (value : Option Argument)
    (flag : Flag) (given : Argument) : SameReading (read (found.set flag given) first)
      (read ((found.atLevel value).set flag given) second) := by
  obtain ⟨next, set⟩ := found.set_atLevel value flag given
  exact set ▸ alike _ next

/-- Lists that are read alike may have the same word put in front. -/
theorem ReadAlike.cons (word : Word) (empty : second.isEmpty = first.isEmpty)
    (alike : ReadAlike first second) (valued : ValuedAlike first second) :
    ReadAlike (word :: first) (word :: second) := by
  intro found value
  cases word with
  | plain word =>
    simp only [read, Found.place_atLevel]
    cases found.place word with
    | ok found => exact alike found value
    | error error => exact ⟨none, rfl⟩
  | separator =>
    have placed : (found.atLevel value).placed = found.placed := rfl
    have isOpen : (found.atLevel value).isOpen = found.isOpen := rfl
    simp only [read, placed, isOpen, empty]
    split <;> exact alike _ value
  | unknown word =>
    rw [read, read]
    exact alike _ value
  | flag flag spelling given =>
    cases given with
    | some given =>
      simp only [read]
      split
      · exact alike.set found value flag _
      · cases readShort flag spelling given <;> exact ⟨none, rfl⟩
    | none =>
      rw [read_flag_none, read_flag_none]
      split
      · exact ⟨none, rfl⟩
      · split
        · exact alike.set found value flag _
        · exact valued found value flag

end SameButLevel

theorem SameButLevel.refl (line : List Word) : SameButLevel line line := by
  induction line with
  | nil => exact .nil
  | cons word rest ih => exact .same word ih

end Options
end NamedSignal
