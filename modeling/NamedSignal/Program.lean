import NamedSignal.Log.Logbook
import NamedSignal.Options.Help
import NamedSignal.Options.Reading
import NamedSignal.Proc.Dispatch
import NamedSignal.Settings

/-!
The program, and what one process keeps from call to call. A call first reads
its command line, then its settings, flags before the file and the file before
the defaults; only when both are in order does it set the logbook up and go over
the processes. What the host refuses ends a call in failure, and what cannot be
understood ends it before anything is done; other faults escape.
-/
namespace NamedSignal.Program

/-- What one process keeps from call to call. -/
structure State where
  book : Log.Logbook
  clock : Clock

/-- Why a call was rejected. -/
inductive Rejection where
  | options (error : Options.Error)
  | settings (refusal : Settings.Refusal)
  deriving DecidableEq

/-- The rejection in words. -/
def Rejection.message : Rejection → Text
  | options error => error.message
  | settings refusal => refusal.message

/-- A fault that no part of the program takes care of. -/
inductive Escape where
  | settings (fault : Settings.Fault)
  | logbook (fault : Log.SetUpFault)
  | pass (failure : Failure)
  deriving DecidableEq

/-- How a call ends. -/
inductive Ending where
  | success
  | failure
  | help
  | rejected (why : Rejection)
  | escaped (fault : Escape)
  deriving DecidableEq

/-- The status a call ends with, unless a fault escapes. -/
def Ending.status? : Ending → Option Nat
  | success | help => some 0
  | failure => some 1
  | rejected _ => some 2
  | escaped _ => none

/-- What is seen of a call. -/
structure Answer where
  ending : Ending
  /-- What goes to the standard output. -/
  output : Text := []
  /-- What goes to the standard error stream. -/
  errors : Text := []
  events : List Event := []

/-- A value for a level given on the command line. -/
def levelWord : Argument → Text
  | .word word => word
  | .nothing => Text.ofString "[]"

/-- The settings of a call before its flags. -/
def baseSettings (workspace : Workspace) (flags : Flags) : Except Settings.Fault Settings :=
  match flags.config with
  | some (.word (first :: rest)) => Settings.load workspace (first :: rest)
  | _ => .ok {}

/-- A call whose words have been understood. -/
structure Plan where
  target : Text
  signal : Int
  /-- The root, `nothing` where what is given is no path. -/
  root : Option Argument
  level : Log.Level
  logFile : Option Argument
  ignoreVanished : Bool
  deriving DecidableEq

/-- What a call is to do: flags override settings. -/
def plan (workspace : Workspace) (options : Options) : Except Settings.Fault Plan := do
  let flags := options.flags
  let base ← baseSettings workspace flags
  let settings := match flags.logLevel with
    | some word => { base with logLevel := levelWord word }
    | none => base
  match settings.level with
  | .error refusal => .error (.refused refusal)
  | .ok level =>
    return {
      target := options.target
      signal := options.signal
      root := flags.root <|> base.root.map .word
      level
      logFile := flags.logFile <|> base.logFile.map .word
      ignoreVanished := flags.ignoreVanished || base.ignoreVanished }

/-- Set the logbook up for a call. -/
def setUp (book : Log.Logbook) (plan : Plan) : Except Log.SetUpFault Unit × Text × Log.Logbook :=
  match plan.logFile with
  | some (.word file) => book.setUp plan.level (some file)
  | none => book.setUp plan.level none
  | some .nothing =>
    let result := book.setUp plan.level none
    if book.isSetUp then result else (.error .notPath, result.2)

/-- The function from which a call reports. -/
def mainFunction : Text := Text.ofString "main"

/-- A word on how the pass went. -/
def verdict (target : Text) : Except Failure (List Int) → Action Ending
  | .ok signaled => do
    Run.log .info Log.rootLogger mainFunction
      (Text.concat ["Signaled ", Text.ofNat signaled.length, " process(es) named ", target.quoted])
    return .success
  | .error failure => do
    if !failure.isHostError then return .escaped (.pass failure)
    Run.log .error Log.rootLogger mainFunction
      (Text.concat ["Failed to signal ", target.quoted, ": ", failure.message])
    return .failure

/-- The pass of a call. -/
def pass (host : Host) (environment : Environment) (plan : Plan) : Action (List Int) :=
  let beneath (root : Option Text) : Action (List Int) :=
    Proc.signalProcesses host environment plan.target plan.signal root plan.ignoreVanished
  match plan.root with
  | none => beneath none
  | some (.word root) => beneath (some root)
  | some .nothing => Proc.signalNowhere plan.target plan.signal

/-- Go over the processes and report. -/
def carryOut (host : Host) (environment : Environment) (plan : Plan) : Action Ending := do
  verdict plan.target (← (pass host environment plan).ended)

/-- What an operation that cannot fail ends with. -/
def endingOf : Except Failure Ending → Ending
  | .ok ending => ending
  | .error failure => .escaped (.pass failure)

/-- Carry out a plan. -/
def execute (state : State) (host : Host) (environment : Environment) (plan : Plan) :
    Answer × State :=
  match setUp state.book plan with
  | (.error fault, shown, book) =>
    ({ ending := .escaped (.logbook fault), errors := shown }, { state with book })
  | (.ok (), shown, book) =>
    let outcome := carryOut host environment plan state.clock
    let (entries, book) := book.enterAll (outcome.events.filterMap Event.record?)
    ({ ending := endingOf outcome.result, errors := shown ++ entries, events := outcome.events },
      { book, clock := outcome.clock })

/-- Turn a call away. -/
def reject (state : State) (why : Rejection) : Answer × State :=
  ({ ending := .rejected why, errors := Options.complaint why.message }, state)

/-- One call of the program with the words of its command line (`main`). -/
def call (state : State) (host : Host) (environment : Environment) (line : List Text) :
    Answer × State :=
  match Options.parse line with
  | .error error => reject state (.options error)
  | .ok .help => ({ ending := .help, output := Options.help }, state)
  | .ok (.run options) =>
    match plan state.book.workspace options with
    | .error (.refused refusal) => reject state (.settings refusal)
    | .error fault => ({ ending := .escaped (.settings fault) }, state)
    | .ok plan => execute state host environment plan

end NamedSignal.Program
