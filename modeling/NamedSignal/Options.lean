import NamedSignal.Signal

/-!
What can be asked for on the command line (`build_parser`), and what can be wrong with
it. Two words name the target and the signal; flags take a value or none.
-/
namespace NamedSignal

/-- What a flag asks for. -/
inductive Flag where
  | help
  | root
  | config
  | ignoreVanished
  | logLevel
  | logFile
  deriving DecidableEq

namespace Flag

/-- Every way to write a flag, in the order in which they are told. -/
def spellings : List (Text × Flag) :=
  [("-h", help), ("--help", help), ("--proc-root", root), ("--config", config),
    ("--ignore-vanished", ignoreVanished), ("--log-level", logLevel), ("--log-file", logFile)]

/-- A flag in all its spellings. -/
def name (flag : Flag) : Text :=
  Text.joinWith [.char '/'] ((spellings.filter (·.2 == flag)).map (·.1))

/-- The flag has a value. -/
def takesValue : Flag → Bool
  | help | ignoreVanished => false
  | root | config | logLevel | logFile => true

end Flag

/-- The value of a flag. A separator given for one counts for nothing. -/
inductive Argument where
  | word (text : Text)
  | nothing
  deriving DecidableEq

/-- What the flags of a command line say. -/
structure Flags where
  root : Option Argument := none
  config : Option Argument := none
  logLevel : Option Argument := none
  logFile : Option Argument := none
  ignoreVanished : Bool := false
  deriving DecidableEq

/-- What a flag says in addition. A flag that comes again counts again; the
call for help says nothing here. -/
def Flags.set (flags : Flags) (flag : Flag) (value : Argument) : Flags :=
  match flag with
  | .help => flags
  | .root => { flags with root := some value }
  | .config => { flags with config := some value }
  | .ignoreVanished => { flags with ignoreVanished := true }
  | .logLevel => { flags with logLevel := some value }
  | .logFile => { flags with logFile := some value }

/-- What a command line asks for. -/
structure Options where
  target : Text
  signal : Int
  flags : Flags
  deriving DecidableEq

namespace Options

/-- What is wrong with a command line. -/
inductive Error where
  | ambiguous (word : Text) (spellings : List Text)
  | missingValue (flag : Flag)
  /-- A flag that has no value is given one. -/
  | unwantedValue (flag : Flag) (value : Text)
  | signal (refusal : Signal.Refusal)
  | missing (names : List Text)
  | unrecognized (words : List Text)
  deriving DecidableEq

/-- Texts in a row, with commas. -/
def enumerated (texts : List Text) : Text := Text.joinWith (Text.ofString ", ") texts

/-- The error in words. -/
def Error.message : Error → Text
  | ambiguous word spellings =>
    Text.concat ["ambiguous option: ", word, " could match ", enumerated spellings]
  | missingValue flag => Text.concat ["argument ", flag.name, ": expected one argument"]
  | unwantedValue flag value =>
    Text.concat ["argument ", flag.name, ": ignored explicit argument ", value.quoted]
  | signal refusal => Text.concat ["argument signal: ", refusal.message]
  | missing names => Text.concat ["the following arguments are required: ", enumerated names]
  | unrecognized words =>
    Text.concat ["unrecognized arguments: ", Text.joinWith [.char ' '] words]

end Options
end NamedSignal
