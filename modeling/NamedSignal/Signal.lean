import NamedSignal.Numeral
import NamedSignal.Text.Capital
import NamedSignal.Text.Quoted

/-!
Signal numbers by number or by name. A word of digits is a number; any other
word is a name in any case, with or without its first three letters.
-/
namespace NamedSignal.Signal

/-- The names of the platform's signals; some numbers have two (`signal.Signals`). -/
def names : List (String × Int) := [
  ("SIGHUP", 1), ("SIGINT", 2), ("SIGQUIT", 3), ("SIGILL", 4), ("SIGTRAP", 5), ("SIGABRT", 6),
  ("SIGIOT", 6), ("SIGBUS", 7), ("SIGFPE", 8), ("SIGKILL", 9), ("SIGUSR1", 10), ("SIGSEGV", 11),
  ("SIGUSR2", 12), ("SIGPIPE", 13), ("SIGALRM", 14), ("SIGTERM", 15), ("SIGSTKFLT", 16),
  ("SIGCHLD", 17), ("SIGCLD", 17), ("SIGCONT", 18), ("SIGSTOP", 19), ("SIGTSTP", 20),
  ("SIGTTIN", 21), ("SIGTTOU", 22), ("SIGURG", 23), ("SIGXCPU", 24), ("SIGXFSZ", 25),
  ("SIGVTALRM", 26), ("SIGPROF", 27), ("SIGWINCH", 28), ("SIGIO", 29), ("SIGPOLL", 29),
  ("SIGPWR", 30), ("SIGSYS", 31), ("SIGRTMIN", 34), ("SIGRTMAX", 64)]

/-- Why a word is no signal. -/
inductive Refusal where
  /-- No signal has this name. -/
  | unknown (word : Text)
  /-- All digits, but no numeral: digits that have no decimal value, or too many. -/
  | notNumeral (word : Text)
  deriving DecidableEq

namespace Refusal

/-- The refusal in words. -/
def message : Refusal → Text
  | unknown word => Text.concat ["unknown signal: ", word]
  | notNumeral word => Text.concat ["invalid parse_signal value: ", word.quoted]

end Refusal

/-- The number of a name, the letters `SIG` in front of it or not. -/
def numberOfName? (name : List Char) : Option Int :=
  let stem := "SIG".toList
  let full := if stem.isPrefixOf name then name else stem ++ name
  (names.find? fun entry => entry.1.toList == full).map (·.2)

/-- The signal a word stands for (`parse_signal`). -/
def parse (word : Text) : Except Refusal Int :=
  if !word.isEmpty && word.all Symbol.isDigit then
    match Numeral.decimal? word with
    | some n => .ok n
    | none => .error (.notNumeral word)
  else
    match word.capitals?.bind numberOfName? with
    | some n => .ok n
    | none => .error (.unknown word)

end NamedSignal.Signal
