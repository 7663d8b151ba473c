import Mathlib.Data.List.Nodup
import NamedSignal.Options.Reading

/-!
Command lines that ask for a pass. The flags are written in one word each, with
their values, and stand in any order and anywhere among the target and the
signal, or in front of a separator behind which the rest follows. All such lines
come to the same: the target, the signal and what the flags say.
-/
namespace NamedSignal

/-- A flag in full. -/
def Flag.long : Flag → Text
  | help => "--help"
  | root => "--proc-root"
  | config => "--config"
  | ignoreVanished => "--ignore-vanished"
  | logLevel => "--log-level"
  | logFile => "--log-file"

/-- Different flags may be set in either order. -/
theorem Flags.set_comm (flags : Flags) {first second : Flag} (other : first ≠ second)
    (a b : Argument) : (flags.set first a).set second b = (flags.set second b).set first a := by
  cases first <;> cases second <;> first | rfl | exact absurd rfl other

namespace Options

/-- A flag that is set in one word. -/
inductive Setting where
  /-- A flag and its value. -/
  | value (flag : Flag) (takes : flag.takesValue = true) (text : Text)
  /-- The flag that has no value. -/
  | ignoreVanished

namespace Setting

/-- The flag that is set. -/
def flag : Setting → Flag
  | value flag _ _ => flag
  | ignoreVanished => .ignoreVanished

/-- What it is set to. -/
def argument : Setting → Argument
  | value _ _ text => Argument.ofText text
  | ignoreVanished => .nothing

/-- The setting as it is written. -/
def text : Setting → Text
  | value flag _ text => flag.long ++ .char '=' :: text
  | ignoreVanished => Flag.ignoreVanished.long

/-- The word that it is. -/
def word : Setting → Word
  | value flag _ text => .flag flag flag.long (some text)
  | ignoreVanished => .flag .ignoreVanished Flag.ignoreVanished.long none

/-- A setting is known by what is in front of the equals sign, so its value may be
anything. -/
theorem classify_text (setting : Setting) : classify setting.text = .ok setting.word := by
  cases setting with
  | value flag takes text => cases flag <;> rfl
  | ignoreVanished => rfl

theorem text_ne_separator (setting : Setting) : (setting.text == separator) = false := by
  cases setting with
  | value flag takes text => cases flag <;> rfl
  | ignoreVanished => rfl

/-- The flags with a setting. -/
def apply (flags : Flags) (setting : Setting) : Flags := flags.set setting.flag setting.argument

theorem read_word (found : Found) (setting : Setting) (rest : List Word) :
    read found (setting.word :: rest) = read (found.set setting.flag setting.argument) rest := by
  cases setting with
  | value flag takes text => simp only [word, read, takes, ↓reduceIte, Setting.flag, argument]
  | ignoreVanished =>
    rw [word, read.eq_def]
    rfl

end Setting

/-- What the flags of a command line are to say, but for the settings file. -/
structure Choice where
  root : Option Text := none
  logLevel : Option Text := none
  logFile : Option Text := none
  ignoreVanished : Bool := false

namespace Choice

/-- The settings that say it. -/
def settings (choice : Choice) (config : Option Text) : List Setting :=
  (choice.root.map (.value .root rfl)).toList ++ (config.map (.value .config rfl)).toList ++
    (choice.logLevel.map (.value .logLevel rfl)).toList ++
    (choice.logFile.map (.value .logFile rfl)).toList ++
    if choice.ignoreVanished then [.ignoreVanished] else []

/-- The flags that say it. -/
def flags (choice : Choice) (config : Option Text) : Flags where
  root := choice.root.map Argument.ofText
  config := config.map Argument.ofText
  logLevel := choice.logLevel.map Argument.ofText
  logFile := choice.logFile.map Argument.ofText
  ignoreVanished := choice.ignoreVanished

theorem flags_of_settings (choice : Choice) (config : Option Text) :
    (choice.settings config).foldl Setting.apply {} = choice.flags config := by
  obtain ⟨root, logLevel, logFile, ignoreVanished⟩ := choice
  cases root <;> cases config <;> cases logLevel <;> cases logFile <;> cases ignoreVanished <;> rfl

/-- No flag is set twice. -/
theorem settings_nodup (choice : Choice) (config : Option Text) :
    ((choice.settings config).map Setting.flag).Nodup := by
  obtain ⟨root, logLevel, logFile, ignoreVanished⟩ := choice
  cases root <;> cases config <;> cases logLevel <;> cases logFile <;> cases ignoreVanished <;>
    simp [settings, Setting.flag]

/-- The settings say the same in any order. -/
theorem flags_of_perm {choice : Choice} {config : Option Text} {settings : List Setting}
    (order : settings.Perm (choice.settings config)) :
    settings.foldl Setting.apply {} = choice.flags config := by
  rw [← flags_of_settings]
  refine order.foldl_eq' (fun first isFirst second isSecond flags => ?_) _
  by_cases same : first.flag = second.flag
  -- No flag is set twice, so two settings of one flag are a single one.
  · have once : first = second :=
      List.inj_on_of_nodup_map (choice.settings_nodup config) (order.mem_iff.mp isFirst)
        (order.mem_iff.mp isSecond) same
    rw [once]
  · exact flags.set_comm same first.argument second.argument

end Choice

/-- A word of a command line in front of any separator. -/
inductive Item where
  | plain (word : Text)
  | flag (setting : Setting)

namespace Item

/-- The item as it is written. -/
def text : Item → Text
  | plain word => word
  | flag setting => setting.text

/-- The word that it is. -/
def word : Item → Word
  | plain word => .plain word
  | flag setting => setting.word

def plain? : Item → Option Text
  | plain word => some word
  | flag _ => none

def setting? : Item → Option Setting
  | plain _ => none
  | flag setting => some setting

end Item

/-- The word is taken as it stands also in front of a separator. -/
def IsPlain (word : Text) : Prop := (word == separator) = false ∧ classify word = .ok (.plain word)

instance (word : Text) : Decidable (IsPlain word) := inferInstanceAs (Decidable (_ ∧ _))

/-- The words behind a separator, if there are any. -/
def behind : List Text → List Text
  | [] => []
  | first :: rest => separator :: first :: rest

/-- The line asks for a target and a signal, with a settings file and with flags:
the plain words in front of a separator and all words behind it are the two, in
order, and the other words are the settings, in any order. -/
inductive Asks (target signal : Text) (config : Option Text) (choice : Choice) : List Text → Prop where
  | intro {items : List Item} {rest : List Text}
      (named : items.filterMap Item.plain? ++ rest = [target, signal])
      (flagged : (items.filterMap Item.setting?).Perm (choice.settings config))
      (plain : ∀ word ∈ items.filterMap Item.plain?, IsPlain word) :
      Asks target signal config choice (items.map Item.text ++ behind rest)

/-- The words behind a separator. -/
def wordsBehind : List Text → List Word
  | [] => []
  | first :: rest => .separator :: .plain first :: rest.map .plain

/-- Words in front of a separator are classified, and those behind it are not. -/
theorem words_items {items : List Item} (rest : List Text)
    (plain : ∀ word ∈ items.filterMap Item.plain?, IsPlain word) :
    words (items.map Item.text ++ behind rest) =
      .ok (items.map Item.word ++ wordsBehind rest) := by
  induction items with
  | nil => cases rest <;> rfl
  | cons item items ih =>
    have first : (item.text == separator) = false ∧ classify item.text = .ok item.word := by
      cases item with
      | plain word => exact plain word (List.mem_cons_self ..)
      | flag setting => exact ⟨setting.text_ne_separator, setting.classify_text⟩
    have later : ∀ word ∈ items.filterMap Item.plain?, IsPlain word := by
      intro word member
      refine plain word ?_
      cases item with
      | plain own => exact List.mem_cons_of_mem _ member
      | flag setting => exact member
    rw [List.map_cons, List.cons_append, words, if_neg (by simp [first.1]), first.2, ih later]
    rfl

/-- What target, signal and flags come to. -/
def settle (target signal : Text) (flags : Flags) : Except Error Request :=
  match Signal.parse signal with
  | .ok number => .ok (.run ⟨target, number, flags⟩)
  | .error refusal => .error (.signal refusal)

section Read

variable {target signal : Text} {flags : Flags} {placed : Bool}

/-- What the flags among some items say in addition. -/
def withItems (flags : Flags) (items : List Item) : Flags :=
  (items.filterMap Item.setting?).foldl Setting.apply flags

/-- Behind target and signal only flags follow. -/
theorem read_flags {number : Int} {items : List Item}
    (named : items.filterMap Item.plain? = []) :
    read ⟨some target, some number, flags, [], placed⟩ (items.map Item.word) =
      .ok (.run ⟨target, number, withItems flags items⟩) := by
  induction items generalizing flags placed with
  | nil => rfl
  | cons item items ih =>
    cases item with
    | plain word => cases named
    | flag setting => exact (Setting.read_word ..).trans (ih named)

/-- A word in the place of the signal settles what is asked for. -/
theorem read_place_signal {rest : List Word} {final : Flags}
    (later : ∀ number, read ⟨some target, some number, flags, [], true⟩ rest =
      .ok (.run ⟨target, number, final⟩)) :
    read ⟨some target, none, flags, [], placed⟩ (.plain signal :: rest) =
      settle target signal final := by
  rw [read, settle]
  simp only [Found.place]
  cases Signal.parse signal with
  | ok number => exact later number
  | error refusal => rfl

/-- While a word is still to come a separator in front of more words has no place of
its own. -/
theorem read_separator {found : Found} (isOpen : found.isOpen = true) (first : Word)
    (rest : List Word) : read found (.separator :: first :: rest) =
      read { found with placed := false } (first :: rest) := by
  have passed : (found.placed || found.isOpen && !(first :: rest).isEmpty) = true := by
    simp [isOpen]
  rw [read, if_pos passed]

/-- Behind the target the signal follows, with flags around it. -/
theorem read_signal {items : List Item} {rest : List Text}
    (named : items.filterMap Item.plain? ++ rest = [signal]) :
    read ⟨some target, none, flags, [], placed⟩ (items.map Item.word ++ wordsBehind rest) =
      settle target signal (withItems flags items) := by
  induction items generalizing flags placed with
  | nil =>
    cases named
    exact (read_separator rfl _ _).trans (read_place_signal fun number => rfl)
  | cons item items ih =>
    cases item with
    | plain word =>
      obtain ⟨rfl, none⟩ := List.cons.inj named
      obtain ⟨unnamed, rfl⟩ := List.append_eq_nil_iff.mp none
      refine read_place_signal fun number => ?_
      exact (congrArg _ (List.append_nil _)).trans (read_flags unnamed)
    | flag setting => exact (Setting.read_word ..).trans (ih named)

/-- The target comes first, with flags around it. -/
theorem read_target {items : List Item} {rest : List Text}
    (named : items.filterMap Item.plain? ++ rest = [target, signal]) :
    read ⟨none, none, flags, [], placed⟩ (items.map Item.word ++ wordsBehind rest) =
      settle target signal (withItems flags items) := by
  -- With no items left, both words stand behind the separator.
  induction items generalizing flags placed with
  | nil =>
    cases named
    exact (read_separator rfl _ _).trans (read_place_signal fun number => rfl)
  | cons item items ih =>
    cases item with
    | plain word =>
      obtain ⟨rfl, later⟩ := List.cons.inj named
      exact read_signal later
    | flag setting => exact (Setting.read_word ..).trans (ih named)

end Read

/-- A line comes to what it asks for, whatever the order of its words. -/
theorem parse_of_asks {target signal : Text} {config : Option Text} {choice : Choice}
    {line : List Text} (asks : Asks target signal config choice line) :
    parse line = settle target signal (choice.flags config) := by
  obtain ⟨named, flagged, plain⟩ := asks
  unfold parse
  rw [words_items _ plain]
  refine (read_target named).trans ?_
  rw [withItems, Choice.flags_of_perm flagged]

end Options
end NamedSignal
