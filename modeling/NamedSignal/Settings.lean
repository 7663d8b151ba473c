import NamedSignal.Failure
import NamedSignal.Log.Record
import NamedSignal.Text.Capital
import NamedSignal.Workspace
import NamedSignal.Yaml.Document

/-!
Settings and the files they come from. A settings file is a mapping from known
keys to values of the right type; a key that is absent keeps its default, and
so does everything in an empty document. Most files that cannot be used are
refused with a reason; a few fail in other ways before their content is known.
-/
namespace NamedSignal

/-- Levels that can be asked for by name, in any case (`LOG_LEVELS`). -/
def Log.Level.ofName? (name : Text) : Option Log.Level :=
  match name.capitals? with
  | none => none
  | some word =>
    ([("DEBUG", .debug), ("INFO", .info), ("WARNING", .warning), ("ERROR", .error)].find?
      fun (entry : String × Log.Level) => entry.1.toList == word).map (·.2)

/-- The keys of a settings file. -/
inductive Settings.Key where
  | root
  | logLevel
  | logFile
  | ignoreVanished
  deriving DecidableEq

/-- What can be set (`Settings`). -/
structure Settings where
  /-- Where the process records are, unless the environment decides. -/
  root : Option Text := none
  logLevel : Text := Text.ofString "INFO"
  logFile : Option Text := none
  /-- Take a process that goes away during a pass for no match. -/
  ignoreVanished : Bool := false
  deriving DecidableEq

namespace Settings

namespace Key

/-- All keys. -/
def all : List Key := [root, logLevel, logFile, ignoreVanished]

/-- The key as it is written. -/
def name : Key → Text
  | root => Text.ofString "proc_root"
  | logLevel => Text.ofString "log_level"
  | logFile => Text.ofString "log_file"
  | ignoreVanished => Text.ofString "ignore_vanished"

end Key

/-- Why settings are refused (`ConfigError`). -/
inductive Refusal where
  | unreadable (path : Text) (errno : Errno)
  | malformed (path : Text)
  | notMapping (path : Text)
  | unknownKeys (path : Text) (keys : List Text)
  | notTruth
  | notPath (key : Key)
  | notText
  | unknownLevel (word : Text)
  deriving DecidableEq

/-- The refusal in words. -/
def Refusal.message : Refusal → Text
  | unreadable path errno =>
    Text.concat ["Cannot read config file ", path, ": ",
      Failure.hostMessage errno errno.sentence (some path)]
  | malformed path => Text.concat ["Invalid YAML in ", path]
  | notMapping path => Text.concat ["Config file ", path, " must contain a mapping"]
  | unknownKeys path keys =>
    Text.concat ["Unknown config keys in ", path, ": ", Text.joinWith (Text.ofString ", ") keys]
  | notTruth => Text.concat [Key.ignoreVanished.name, " must be true or false"]
  | notPath key => Text.concat [key.name, " must be a path string"]
  | notText => Text.concat [Key.logLevel.name, " must be a string"]
  | unknownLevel word => Text.concat ["Unknown log level: ", word]

/-- Why a settings file gives no settings. -/
inductive Fault where
  | refused (refusal : Refusal)
  /-- No file can have the path. -/
  | unusablePath
  /-- The bytes are no well-formed text. -/
  | undecodable
  /-- A scalar does not fit its type. -/
  | scalar (fault : Yaml.Fault)
  /-- Unknown keys that cannot be put in order. -/
  | unordered
  /-- An unknown key that is a number with too many digits. -/
  | numeralTooLong
  deriving DecidableEq

/-- The numeric level (`Settings.level`). -/
def level (settings : Settings) : Except Refusal Log.Level :=
  match Log.Level.ofName? settings.logLevel with
  | some level => .ok level
  | none => .error (.unknownLevel settings.logLevel)

/-- The entries of a mapping. -/
abbrev Entries := List (Yaml.Value × Yaml.Value)

/-- The value of a key. -/
def value? (entries : Entries) (key : Key) : Option Yaml.Value :=
  (entries.find? fun entry => entry.1.same (.text key.name)).map (·.2)

/-- The keys that mean nothing. -/
def unknown (entries : Entries) : List Yaml.Value :=
  (entries.map (·.1)).filter fun key => !Key.all.any fun known => key.same (.text known.name)

/-- Refuse keys that mean nothing. -/
def checkKeys (path : Text) (entries : Entries) : Except Fault Unit :=
  match unknown entries with
  | [] => .ok ()
  | keys =>
    match Yaml.Value.sort? keys with
    | none => .error .unordered
    | some keys =>
      match keys.mapM Yaml.Value.toText? with
      | none => .error .numeralTooLong
      | some names => .error (.refused (.unknownKeys path names))

/-- A truth value, false where it is absent. -/
def truth (entries : Entries) : Except Fault Bool :=
  match value? entries .ignoreVanished with
  | none => .ok false
  | some (.bool b) => .ok b
  | some _ => .error (.refused .notTruth)

/-- A path, which may be absent or null. -/
def path (entries : Entries) (key : Key) : Except Fault (Option Text) :=
  match value? entries key with
  | none | some .null => .ok none
  | some (.text t) => .ok (some t)
  | some _ => .error (.refused (.notPath key))

/-- The name of a level, and the usual one where it is absent. -/
def levelName (entries : Entries) : Except Fault Text :=
  match value? entries .logLevel with
  | none => .ok ({} : Settings).logLevel
  | some (.text t) => .ok t
  | some _ => .error (.refused .notText)

/-- The settings a document holds. -/
def ofDocument (file : Text) : Yaml.Document → Except Fault Settings
  | .empty => .ok {}
  | .other => .error (.refused (.notMapping file))
  | .mapping entries => do
    checkKeys file entries
    let ignoreVanished ← truth entries
    let root ← path entries .root
    let logFile ← path entries .logFile
    let logLevel ← levelName entries
    let settings : Settings := { root, logLevel, logFile, ignoreVanished }
    match settings.level with
    | .ok _ => return settings
    | .error refusal => .error (.refused refusal)

/-- The settings in the bytes of a file. -/
def ofBytes (file : Text) (bytes : List UInt8) : Except Fault Settings :=
  match Utf8.decodeStrict? bytes with
  | none => .error .undecodable
  | some chars =>
    match Yaml.Document.ofText (Text.unifyNewlines chars) with
    | .ok document => ofDocument file document
    | .error .malformed => .error (.refused (.malformed file))
    | .error fault => .error (.scalar fault)

/-- What a host answers to reads, whatever is there. -/
abbrev Reader := Path.Normal → Except Errno (List UInt8)

/-- The settings in a file that a host reads (`load_config`). -/
def loadFrom (read : Reader) (path : Text) : Except Fault Settings :=
  let path := Path.Normal.ofText path
  let file := path.toText
  if file.contains (.char '\x00') then .error .unusablePath
  else match read path with
  | .error errno => .error (.refused (.unreadable file errno))
  | .ok bytes => ofBytes file bytes

/-- The settings in a file of a tree. -/
def load (workspace : Workspace) (path : Text) : Except Fault Settings :=
  loadFrom workspace.read path

end Settings
end NamedSignal
