import NamedSignal.Outcome
import NamedSignal.Decimal.Fixed

/-!
Timed blocks. A block reads the clock before and after its body and reports
once, when it ends: how long it took, louder if that was long, or that it
failed. The ending of the body is the ending of the block.
-/
namespace NamedSignal.Timer

/-- Blocks that take more milliseconds than this are slow (`SLOW_THRESHOLD_MS`). -/
def slowThreshold : Float := 100

/-- The logger of blocks that name none. -/
def defaultLogger : Text := Log.loggerNamed (Text.ofString "perf")

/-- The function from which blocks report. -/
def reportFunction : Text := Text.ofString "__exit__"

/-- Milliseconds between two readings. -/
def elapsed (start stop : Float) : Float := (stop - start) * 1000

/-- The report of a block: its time, and the kind of its failure if it failed
(`PerfTimer.__exit__`). -/
def report (name logger : Text) (milliseconds : Float) (failure : Option Text) : Log.Record :=
  let time := Text.concat [Decimal.fixed 2 milliseconds, "ms"]
  match failure with
  | some kind =>
    ⟨.debug, logger, reportFunction, Text.concat [name, " raised ", kind, " after ", time]⟩
  | none =>
    if slowThreshold < milliseconds then
      ⟨.warning, logger, reportFunction, Text.concat ["SLOW: ", name, " took ", time]⟩
    else ⟨.debug, logger, reportFunction, Text.concat [name, " took ", time]⟩

/-- The kind of failure a result holds. -/
def failureKind {ε α : Type} (kind : ε → Text) : Except ε α → Option Text
  | .error failure => some (kind failure)
  | .ok _ => none

/-- Time a body (`PerfTimer`, `timed`). -/
def timed {ε α : Type} (kind : ε → Text) (name logger : Text) (body : Run ε α) : Run ε α := do
  let start ← Run.now
  let ending ← body.ended
  let stop ← Run.now
  Run.emit (.logged (report name logger (elapsed start stop) (failureKind kind ending)))
  Run.ofExcept ending

/-- A block with blocks inside. Its body runs them in order, whatever becomes
of each, and then fails if it is told to, with a failure known by its kind. -/
inductive Block where
  | block (name logger : Text) (fails : Option Text) (nested : List Block)
  deriving Nonempty

mutual

/-- Run a block. -/
def Block.run : Block → Run Text Unit
  | .block name logger fails nested => timed id name logger do
    runAll nested
    match fails with
    | some kind => Run.fail kind
    | none => pure ()

/-- Run blocks in order and absorb their failures. -/
def runAll : List Block → Run Text Unit
  | [] => pure ()
  | block :: rest => do
    let _ ← block.run.ended
    runAll rest

end

end NamedSignal.Timer
