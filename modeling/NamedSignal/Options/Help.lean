import NamedSignal.Text

/-!
The texts that tell how the program is called.
-/
namespace NamedSignal.Options

/-- The name of the program. -/
def program : String := "procsignal"

/-- Lines with their ends. -/
def lines (parts : List String) : Text := Text.ofString (String.join (parts.map (· ++ "\n")))

/-- How the program is called, in short. -/
def usage : Text := lines [
  "usage: procsignal [-h] [--proc-root PROC_ROOT] [--config CONFIG]",
  "                  [--ignore-vanished] [--log-level LOG_LEVEL]",
  "                  [--log-file LOG_FILE]",
  "                  name signal"]

/-- How the program is called, and what each part means (`format_help`). -/
def help : Text := usage ++ lines [
  "",
  "Send a signal to every process with the given name.",
  "",
  "positional arguments:",
  "  name                  Process name to match exactly",
  "  signal                Signal number or name (e.g. 15, TERM)",
  "",
  "options:",
  "  -h, --help            show this help message and exit",
  "  --proc-root PROC_ROOT",
  "                        Process-information root (overrides HOST_PROC)",
  "  --config CONFIG       YAML config file",
  "  --ignore-vanished     Skip processes that exit while their name is being",
  "                        read",
  "  --log-level LOG_LEVEL",
  "                        Console log level (DEBUG, INFO, WARNING, ERROR)",
  "  --log-file LOG_FILE   Write a detailed log to this file"]

/-- What is written about a call that cannot be carried out. -/
def complaint (message : Text) : Text :=
  usage ++ Text.concat [Text.ofString program, ": error: ", message, "\n"]

end NamedSignal.Options
