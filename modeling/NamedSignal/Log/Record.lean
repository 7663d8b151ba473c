import NamedSignal.Text

/-!
Log records: a level, the logger that takes the record, the function that
emits it and the message. Loggers form one hierarchy under a single root.
-/
namespace NamedSignal.Log

/-- A level is any number; the usual ones have names. -/
abbrev Level := Int

namespace Level

def debug : Level := 10
def info : Level := 20
def warning : Level := 30
def error : Level := 40

/-- The name of a level, or its number (`logging.getLevelName`). -/
def name (level : Level) : Text :=
  match level with
  | 0 => Text.ofString "NOTSET"
  | 10 => Text.ofString "DEBUG"
  | 20 => Text.ofString "INFO"
  | 30 => Text.ofString "WARNING"
  | 40 => Text.ofString "ERROR"
  | 50 => Text.ofString "CRITICAL"
  | _ => Text.concat ["Level ", Text.ofInt level]

end Level

/-- One entry for the log. -/
structure Record where
  level : Level
  logger : Text
  function : Text
  message : Text
  deriving DecidableEq

/-- The logger above all others. -/
def rootLogger : Text := Text.ofString "procsignal"

/-- The logger of a part of the program (`get_logger`). -/
def loggerNamed (name : Text) : Text := Text.concat [rootLogger, ".", name]

end NamedSignal.Log
