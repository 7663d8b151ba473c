import NamedSignal.Proofs.LogHandlers
import NamedSignal.Proofs.RejectedCalls

/-!
The log of a process over its whole life. The first step that asks for handlers
attaches them, and no later step changes them, however it ends. Each step enters its
own records and nothing else, so what a handler shows or holds only grows, and no
file but that of the first step is written.
-/
namespace NamedSignal.Program

/-- The path of the log file that a plan asks for. -/
def Plan.logPath? (plan : Plan) : Option Text :=
  match plan.logFile with
  | some (.word file) => some file
  | _ => none

/-- A call sets the logbook up for the level and the file of its plan. -/
theorem setUp_eq (book : Log.Logbook) (plan : Plan) :
    (setUp book plan).2 =
      (book.attached plan.level plan.logPath?).enterAll (book.openings plan.logPath?) := by
  unfold setUp Plan.logPath?
  match plan.logFile with
  | none => exact Log.Logbook.setUp_eq ..
  | some (.word file) => exact Log.Logbook.setUp_eq ..
  | some .nothing =>
    simp only
    split <;> exact Log.Logbook.setUp_eq ..

namespace Step

/-- The level and the file for which a step sets the logbook up, if it does. -/
def asks (state : State) : Step → Option (Log.Level × Option Text)
  | call _ _ line =>
    match Options.parse line with
    | .ok (.run options) =>
      match plan state.book.workspace options with
      | .ok plan => some (plan.level, plan.logPath?)
      | .error _ => none
    | _ => none
  | setUp level file => some (level, file)
  | log .. | setTime _ | time _ => none

/-- The records that a step puts into the log. -/
def records (state : State) (step : Step) : List Log.Record :=
  (match step.asks state with
    | some (_, file) => state.book.openings file
    | none => []) ++
  match step with
  | .call host environment line =>
    (Program.call state host environment line).1.events.filterMap Event.record?
  | .log logger level message => [⟨level, Log.loggerNamed logger, emitFunction, message⟩]
  | .time block => (block.run state.clock).events.filterMap Event.record?
  | .setUp .. | .setTime _ => []

/-- The logbook into which a step puts its records. -/
def book (state : State) : Step → Log.Logbook
  | setTime now => { state.book with now }
  | step =>
    match step.asks state with
    | some (level, file) => state.book.attached level file
    | none => state.book

end Step

/-- What is written about a call that is rejected. -/
def Report.complaint (report : Report) : Text :=
  match report.reply with
  | .answered { ending := .rejected why, .. } => Options.complaint why.message
  | _ => []

namespace State

/-- A call with a plan enters its records into the logbook that it sets up. -/
theorem execute_book (state : State) (host : Host) (environment : Environment) (plan : Plan) :
    let answer := (execute state host environment plan).1
    let entered := (state.book.attached plan.level plan.logPath?).enterAll
      (state.book.openings plan.logPath? ++ answer.events.filterMap Event.record?)
    answer.errors = entered.1 ∧ (execute state host environment plan).2.book = entered.2 := by
  intro answer entered
  have begun := setUp_eq state.book plan
  simp only [answer, entered, Log.Logbook.enterAll_append]
  rw [← begun]
  unfold execute
  match setUp state.book plan with
  | (.error fault, shown, book) => simp [Log.Logbook.enterAll]
  | (.ok (), shown, book) => exact ⟨rfl, rfl⟩

/-- A call that carries out a plan is not rejected. -/
private theorem execute_complaint (state : State) (host : Host) (environment : Environment)
    (plan : Plan) (errors : Text) :
    Report.complaint ⟨.answered (execute state host environment plan).1, errors⟩ = [] := by
  have stays := execute_stays state host environment plan
  unfold Report.complaint
  cases answer : (execute state host environment plan).1 with
  | mk ending output shown events =>
    rw [answer] at stays
    cases ending with
    | rejected why => cases stays
    | _ => rfl

/-- A step enters its records, and shows nothing else but what is wrong with a call. -/
theorem step_enters (state : State) (step : Step) :
    let entered := (step.book state).enterAll (step.records state)
    (state.step step).1.errors = (state.step step).1.complaint ++ entered.1 ∧
      (state.step step).2.book = entered.2 := by
  intro entered
  cases step with
  | call host environment line =>
    simp only [entered, State.step, Step.book, Step.records, Step.asks, call]
    cases Options.parse line with
    | error error => exact ⟨(List.append_nil _).symm, rfl⟩
    | ok request =>
      cases request with
      | help => exact ⟨rfl, rfl⟩
      | run options =>
        simp only
        cases planned : plan state.book.workspace options with
        | error fault =>
          cases fault with
          | refused refusal => exact ⟨(List.append_nil _).symm, rfl⟩
          | _ => exact ⟨rfl, rfl⟩
        | ok plan =>
          obtain ⟨shown, kept⟩ := execute_book state host environment plan
          simp only [execute_complaint, List.nil_append]
          exact ⟨shown, kept⟩
  | setUp level file =>
    have begun := Log.Logbook.setUp_eq state.book level file
    simp only [entered, State.step, Step.book, Step.records, Step.asks, List.append_nil, ← begun,
      and_true]
    rfl
  | log logger level message => exact ⟨rfl, rfl⟩
  | setTime now => exact ⟨rfl, rfl⟩
  | time block => exact ⟨rfl, rfl⟩

end State

/-- A step that asks for handlers puts its records into the logbook with these attached,
any other into the logbook as it is or at another time. -/
theorem Step.book_cases (state : State) (step : Step) :
    (∃ level file, step.asks state = some (level, file) ∧
      step.book state = state.book.attached level file) ∨
    (step.asks state = none ∧ ∃ now, step.book state = { state.book with now }) := by
  cases step with
  | call host environment line =>
    simp only [book]
    cases asks state (.call host environment line) with
    | some asked => exact .inl ⟨asked.1, asked.2, rfl, rfl⟩
    | none => exact .inr ⟨rfl, _, rfl⟩
  | setUp level file => exact .inl ⟨level, file, rfl, rfl⟩
  | log logger level message => exact .inr ⟨rfl, _, rfl⟩
  | setTime now => exact .inr ⟨rfl, now, rfl⟩
  | time block => exact .inr ⟨rfl, _, rfl⟩

namespace State

section Handlers

variable (state : State) (step : Step)

/-- What a step does with its records depends on the handlers, and no record changes
these. -/
theorem step_views :
    (state.step step).2.book.handlers = (step.book state).handlers ∧
      (state.step step).2.book.bytes? = (step.book state).bytes? ∧
      (state.step step).2.book.line? = (step.book state).line? ∧
      (state.step step).2.book.loss? = (step.book state).loss? := by
  rw [(step_enters state step).2, Log.Logbook.enterAll_frame]
  exact ⟨rfl, rfl, rfl, rfl⟩

/-- Handlers that are there stay, and if there are none those come that a step asks for. -/
theorem step_handlers : (state.step step).2.book.handlers =
    if state.book.handlers = [] then
      match step.asks state with
      | some (level, file) =>
        .console level :: (state.book.logPlace? file).toList.map .file
      | none => []
    else state.book.handlers := by
  rw [(step_views state step).1]
  obtain ⟨level, file, asked, opened⟩ | ⟨unasked, now, same⟩ := step.book_cases state
  · rw [opened, asked, Log.Logbook.attached_handlers]
  · rw [same, unasked]
    split
    · assumption
    · rfl

variable {state}

/-- Handlers that are there stay. -/
theorem steps_handlers (some_handler : state.book.handlers ≠ []) (run : List Step) :
    (state.steps run).2.book.handlers = state.book.handlers := by
  induction run generalizing state with
  | nil => rfl
  | cons step rest ih =>
    have first := step_handlers state step
    rw [if_neg some_handler] at first
    rw [steps, ih (first ▸ some_handler), first]

/-- The handlers are those that the first step attached that asked for any. -/
theorem steps_origin (bare : state.book.handlers = []) (run : List Step) :
    (state.steps run).2.book.handlers = [] ∨
      ∃ before step rest level file, run = before ++ step :: rest ∧
        (state.steps before).2.book.handlers = [] ∧
        step.asks (state.steps before).2 = some (level, file) ∧
        (state.steps run).2.book.handlers =
          .console level :: ((state.steps before).2.book.logPlace? file).toList.map .file := by
  induction run generalizing state with
  | nil => exact .inl bare
  | cons step rest ih =>
    have first := step_handlers state step
    rw [if_pos bare] at first
    cases asked : step.asks state with
    | none =>
      rw [asked] at first
      obtain none_yet | ⟨before, asking, others, level, file, split, unset, asks, opened⟩ :=
        ih first
      · exact .inl none_yet
      · refine .inr ⟨step :: before, asking, others, level, file, ?_, unset, asks, opened⟩
        rw [split, List.cons_append]
    | some asks =>
      obtain ⟨level, file⟩ := asks
      rw [asked] at first
      have attached : (state.step step).2.book.handlers ≠ [] := by simp [first]
      have stays := steps_handlers attached rest
      exact .inr ⟨[], step, rest, level, file, rfl, bare, asked, stays.trans first⟩

end Handlers

end State

section Sound

variable {state : State} (sound : state.book.Sound) (step : Step)

include sound

/-- Before a step enters anything its log file is there, and all files hold what they
held. -/
theorem Step.book_sound : (step.book state).Sound ∧
    ∀ place, (step.book state).workspace.file? place =
      if .file place ∈ (step.book state).handlers then
        some ((state.book.workspace.file? place).getD [])
      else state.book.workspace.file? place := by
  obtain ⟨level, file, -, opened⟩ | ⟨-, now, same⟩ := step.book_cases state
  · rw [opened]
    exact ⟨sound.attached, sound.attached_file?⟩
  · rw [same]
    refine ⟨sound.at_time now, fun place => ?_⟩
    split
    · rename_i filed
      obtain ⟨content, held⟩ := sound.held filed
      simp [held]
    · rfl

namespace State

theorem step_sound : (state.step step).2.book.Sound := by
  rw [(step_enters state step).2]
  exact (step.book_sound sound).1.enterAll

/-- The file of the log takes a line at most for each record of the step, at its end,
and no other file is touched. -/
theorem step_file? (place : Place) :
    (state.step step).2.book.workspace.file? place =
      if .file place ∈ (state.step step).2.book.handlers then
        some ((state.book.workspace.file? place).getD [] ++
          ((step.records state).filterMap (state.step step).2.book.bytes?).flatten)
      else state.book.workspace.file? place := by
  obtain ⟨ready, begun⟩ := step.book_sound sound
  obtain ⟨handlers, bytes, -⟩ := step_views state step
  rw [handlers, bytes, (step_enters state step).2, ready.enterAll_file?, begun]
  split <;> simp

theorem steps_sound (run : List Step) : (state.steps run).2.book.Sound := by
  induction run generalizing state with
  | nil => exact sound
  | cons step rest ih => exact ih (step_sound sound step)

/-- Only the file of the log is written. -/
theorem steps_untouched (run : List Step) (place : Place) :
    .file place ∈ (state.steps run).2.book.handlers ∨
      (state.steps run).2.book.workspace.file? place = state.book.workspace.file? place := by
  induction run generalizing state with
  | nil => exact .inr rfl
  | cons step rest ih =>
    have later := step_sound sound step
    by_cases filed : .file place ∈ (state.step step).2.book.handlers
    -- A file that is attached stays so.
    · have stays := steps_handlers (List.ne_nil_of_mem filed) rest
      exact .inl (stays.symm ▸ filed)
    · have first := step_file? sound step place
      rw [if_neg filed] at first
      obtain within | same := ih later
      · exact .inl within
      · exact .inr (same.trans first)

/-- What a file holds stays in front of what comes to it. -/
theorem steps_grow {place : Place} {content : List UInt8}
    (held : state.book.workspace.file? place = some content) (run : List Step) :
    ∃ more, (state.steps run).2.book.workspace.file? place = some (content ++ more) := by
  induction run generalizing state content with
  | nil => exact ⟨[], by rw [List.append_nil]; exact held⟩
  | cons step rest ih =>
    have first := step_file? sound step place
    split at first
    · rw [held, Option.getD_some] at first
      obtain ⟨more, grown⟩ := ih (step_sound sound step) first
      exact ⟨_, by rw [steps, grown, List.append_assoc]⟩
    · exact ih (step_sound sound step) (first.trans held)

end State

end Sound

/-- What holds of the log of a process that has taken some steps. -/
structure LogAfter (start : State) (run : List Step) : Prop where
  /-- There is one console and one file at most. -/
  single : (start.steps run).2.book.handlers.countP Log.Handler.isConsole ≤ 1 ∧
    (start.steps run).2.book.handlers.countP Log.Handler.isFile ≤ 1
  /-- The handlers are those that the first step attached that asked for any: a console
  of its level, and behind that its file where the path of that leads, if it could be
  opened. -/
  origin : (start.steps run).2.book.handlers = [] ∨
    ∃ before step rest level file, run = before ++ step :: rest ∧
      (start.steps before).2.book.handlers = [] ∧
      step.asks (start.steps before).2 = some (level, file) ∧
      (start.steps run).2.book.handlers =
        .console level :: ((start.steps before).2.book.logPlace? file).toList.map .file
  /-- Handlers never change once they are there. -/
  lasting : (start.steps run).2.book.handlers ≠ [] → ∀ more,
    (start.steps (run ++ more)).2.book.handlers = (start.steps run).2.book.handlers
  /-- A next step shows a line at most for each of its records, behind what is wrong
  with it, and puts a line at most for each of them at the end of the file. Behind the
  line of a record that a file cannot take there may be the report on that. -/
  once : ∀ step : Step,
    let now := (start.steps run).2
    let next := now.step step
    next.1.errors =
        next.1.complaint ++ (step.records now).flatMap (fun r =>
          (next.2.book.line? r).getD [] ++ (next.2.book.loss? r).getD []) ∧
      ∀ place, .file place ∈ next.2.book.handlers → next.2.book.workspace.file? place =
        some ((now.book.workspace.file? place).getD [] ++
          ((step.records now).filterMap next.2.book.bytes?).flatten)
  /-- No file but the one among the handlers has been written. -/
  untouched : ∀ place, .file place ∉ (start.steps run).2.book.handlers →
    (start.steps run).2.book.workspace.file? place = start.book.workspace.file? place
  /-- A file only grows. -/
  grows : ∀ place content more, (start.steps run).2.book.workspace.file? place = some content →
    ∃ rest, (start.steps (run ++ more)).2.book.workspace.file? place = some (content ++ rest)

/-- The log of a process that begins without handlers, whatever it does. -/
theorem log_after_steps (workspace : Workspace) (now : Float)
    (trace? : Option (Log.Record → Text)) (clock : Clock) (run : List Step) :
    LogAfter ⟨{ workspace, now, trace? }, clock⟩ run := by
  have bare : (State.book ⟨{ workspace, now, trace? }, clock⟩).handlers = [] := rfl
  have begun := Log.Logbook.Sound.bare bare
  have sound := State.steps_sound begun run
  refine ⟨sound.single, State.steps_origin bare run, ?_, ?_, ?_, ?_⟩
  · intro some_handler more
    rw [State.steps_append]
    exact State.steps_handlers some_handler more
  · intro step now next
    obtain ⟨ready, -⟩ := step.book_sound sound
    obtain ⟨-, -, lines, losses⟩ := State.step_views now step
    have shown := (State.step_enters now step).1
    rw [Log.Logbook.enterAll_shown, funext ready.told_eq, ← lines, ← losses] at shown
    refine ⟨shown, fun place attached => ?_⟩
    have written := State.step_file? sound step place
    rwa [if_pos attached] at written
  · intro place absent
    exact (State.steps_untouched begun run place).resolve_left absent
  · intro place content more held
    rw [State.steps_append]
    exact State.steps_grow sound held more

end NamedSignal.Program
