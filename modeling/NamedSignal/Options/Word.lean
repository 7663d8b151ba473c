import NamedSignal.Options

/-!
The words of a command line, each taken by itself (`argparse`). A word that begins with a
hyphen is a flag, in full or cut short as far as it stays unambiguous, unless it
is a negative number or holds a blank. Behind a separator no word is a flag.
-/
namespace NamedSignal.Options

/-- What a word is. -/
inductive Word where
  | plain (text : Text)
  | separator
  /-- A flag in its full spelling, and the value written with it. -/
  | flag (flag : Flag) (spelling : Text) (value : Option Text)
  /-- It looks like a flag, but there is none. -/
  | unknown (text : Text)
  deriving DecidableEq

def hyphen : Symbol := .char '-'

/-- The word behind which no word is a flag. -/
def separator : Text := [hyphen, hyphen]

/-- A word cut at its first equals sign, and the value behind that. -/
def splitValue (word : Text) : Text × Option Text :=
  match word.dropWhile (· != .char '=') with
  | [] => (word, none)
  | _ :: value => (word.takeWhile (· != .char '='), some value)

/-- Every flag a word may stand for, with its value. A short flag may have its
value right behind it. -/
def candidates (word : Text) : List (Text × Flag × Option Text) :=
  if separator.isPrefixOf word then
    let (stem, value) := splitValue word
    (Flag.spellings.filter fun entry => stem.isPrefixOf entry.1).map
      fun entry => (entry.1, entry.2, value)
  else Flag.spellings.filterMap fun entry =>
    if entry.1 == word.take 2 then some (entry.1, entry.2, some (word.drop 2))
    else if word.isPrefixOf entry.1 then some (entry.1, entry.2, none)
    else none

/-- A minus and a number, perhaps with a point. -/
def isNegativeNumber (word : Text) : Bool :=
  let isDigit (s : Symbol) : Bool := s.decimal?.isSome
  match if word.getLast? == some (.char '\n') then word.dropLast else word with
  | [] => false
  | first :: number =>
    let fraction := number.dropWhile isDigit
    first == hyphen &&
      if fraction.isEmpty then !number.isEmpty
      else fraction.head? == some (.char '.') && 1 < fraction.length &&
        (fraction.drop 1).all isDigit

/-- What a word in front of any separator is. -/
def classify (word : Text) : Except Error Word :=
  if word.head? != some hyphen || word == [hyphen] then .ok (.plain word)
  else match Flag.spellings.lookup word with
  | some flag => .ok (.flag flag word none)
  | none =>
    let (stem, value) := splitValue word
    match if value.isSome then Flag.spellings.lookup stem else none with
    | some flag => .ok (.flag flag stem value)
    | none =>
      match candidates word with
      | [(spelling, flag, value)] => .ok (.flag flag spelling value)
      | [] =>
        if isNegativeNumber word || word.contains (.char ' ') then .ok (.plain word)
        else .ok (.unknown word)
      | several => .error (.ambiguous word (several.map (·.1)))

/-- What the words of a command line are. -/
def words : List Text → Except Error (List Word)
  | [] => .ok []
  | word :: rest =>
    if word == separator then .ok (.separator :: rest.map .plain)
    else do
      let first ← classify word
      return first :: (← words rest)

end NamedSignal.Options
