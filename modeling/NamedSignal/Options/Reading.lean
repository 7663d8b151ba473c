import NamedSignal.Options.Word

/-!
The meaning of a whole command line (`argparse`). Words are taken in order: a flag takes the
plain word behind it if it needs a value, the first two plain words left over
are the target and the signal, and whatever remains is an error in the end. Help
is given as soon as it is asked for, so errors further on do not count.
-/
namespace NamedSignal.Options

/-- What a command line comes to. -/
inductive Request where
  | help
  | run (options : Options)
  deriving DecidableEq

/-- What has been found so far. -/
structure Found where
  target : Option Text := none
  signal : Option Int := none
  flags : Flags := {}
  /-- Words that have no place. -/
  extras : List Text := []
  /-- The word before was the target or the signal. -/
  placed : Bool := false

namespace Found

/-- Keep a word that has no place. -/
def extra (found : Found) (word : Text) : Found :=
  { found with extras := found.extras ++ [word], placed := false }

/-- A word is still to come. -/
def isOpen (found : Found) : Bool := found.target.isNone || found.signal.isNone

/-- Take a plain word. A separator in the place of the signal is a word like any other
and so no signal; `argparse` takes it out there and leaves an empty signal. -/
def place (found : Found) (word : Text) : Except Error Found :=
  match found.target, found.signal with
  | none, _ => .ok { found with target := some word, placed := true }
  | some _, none =>
    match Signal.parse word with
    | .ok signal => .ok { found with signal := some signal, placed := true }
    | .error refusal => .error (.signal refusal)
  | some _, some _ => .ok (found.extra word)

/-- Take a flag. -/
def set (found : Found) (flag : Flag) (value : Argument) : Found :=
  { found with flags := found.flags.set flag value, placed := false }

/-- What has been found, if nothing is missing or too much. -/
def finish (found : Found) : Except Error Request :=
  match found.target, found.signal with
  | some target, some signal =>
    if found.extras.isEmpty then .ok (.run { target, signal, flags := found.flags })
    else .error (.unrecognized found.extras)
  | target, _ =>
    let names := if target.isNone then [Text.ofString "name", "signal"] else ["signal"]
    .error (.missing names)

end Found

/-- A flag without a value that has one written right behind it: short flags may
follow each other in one word, and all of them are calls for help. -/
def readShort (flag : Flag) (spelling value : Text) : Except Error Unit :=
  match value with
  | [] => .error (.unwantedValue flag value)
  | first :: more =>
    if spelling.take 2 == separator || (Flag.spellings.lookup [hyphen, first]).isNone then
      .error (.unwantedValue flag value)
    else if more.isEmpty then .ok ()
    else readShort flag spelling more

/-- The value of a flag that is written with it. -/
def Argument.ofText (text : Text) : Argument := if text == separator then .nothing else .word text

/-- Read the words that are left. -/
def read (found : Found) : List Word → Except Error Request
  | [] => found.finish
  | .plain word :: rest =>
    match found.place word with
    | .ok found => read found rest
    | .error error => .error error
  | .separator :: rest =>
    if found.placed || found.isOpen && !rest.isEmpty then read { found with placed := false } rest
    else read (found.extra separator) rest
  | .unknown word :: rest => read (found.extra word) rest
  | .flag flag spelling (some value) :: rest =>
    if flag.takesValue then read (found.set flag (Argument.ofText value)) rest
    else match readShort flag spelling value with
    | .ok () => .ok .help
    | .error error => .error error
  | .flag flag _ none :: rest =>
    if flag == .help then .ok .help
    else if !flag.takesValue then read (found.set flag .nothing) rest
    else match rest with
    | .plain word :: rest => read (found.set flag (.word word)) rest
    | _ => .error (.missingValue flag)

/-- What a command line comes to (`parse_args`). -/
def parse (line : List Text) : Except Error Request := do read {} (← words line)

end NamedSignal.Options
