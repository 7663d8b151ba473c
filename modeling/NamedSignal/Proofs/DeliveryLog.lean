import NamedSignal.Proofs.CallRecords
import NamedSignal.Proofs.LogHistory

/-!
The log file as a record of deliveries. The first call of a process opens the
file it is given, and from then on every record of the call whose texts are well
formed puts a line at its end. A notice holds the name of the target as it is, so
with a well-formed name there is one line for each delivery, and with any other
name there is none.
-/
namespace NamedSignal

namespace Proc

/-- A notice is as well formed as the name it holds. -/
theorem notice_isWellFormed (target : Text) (delivery : Int × Int) :
    (notice target delivery).isWellFormed = target.isWellFormed := by
  have logger : dispatchLogger.isWellFormed = true := by decide +kernel
  simp [Log.Record.isWellFormed, notice, logger]

/-- Either all notices are well formed or none is. -/
theorem filter_notices (target : Text) (deliveries : List (Int × Int)) :
    (deliveries.map (notice target)).filter (·.isWellFormed) =
      if target.isWellFormed then deliveries.map (notice target) else [] := by
  split
  · rename_i formed
    refine List.filter_eq_self.mpr fun record member => ?_
    obtain ⟨delivery, -, rfl⟩ := List.mem_map.mp member
    exact (notice_isWellFormed target delivery).trans formed
  · rename_i raw
    refine List.filter_eq_nil_iff.mpr fun record member => ?_
    obtain ⟨delivery, -, rfl⟩ := List.mem_map.mp member
    rwa [notice_isWellFormed]

end Proc

namespace Program

section Call

variable {state : State} {line : List Text} {plan : Plan} (host : Host) (environment : Environment)

/-- Every record of a call is at least one for those who look for details. -/
theorem recordsOf_loud (reaches : Reaches state line plan) :
    ∀ record ∈ recordsOf state host environment line plan, .debug ≤ record.level := by
  have order : Log.Level.debug ≤ .info ∧ Log.Level.debug ≤ .warning ∧ Log.Level.debug ≤ .error := by
    decide
  refine recordsOf_each host environment ?_ ?_ (fun _ => order.2.2) reaches
  · intro record quiet
    simp only [Event.isBackground, Bool.or_eq_true, beq_iff_eq] at quiet
    rcases quiet with plain | slow
    · exact plain.ge
    · exact slow ▸ order.2.1
  · intro record news
    exact news ▸ order.1

/-- A first call that is given a file enters its records behind the console and the file. -/
theorem book_of_reaches {file : Text} (reaches : Reaches state line plan)
    (fresh : state.book.isSetUp = false) (asked : plan.logFile = some (.word file)) :
    (∃ place, state.book.logPlace? (some file) = some place) ∧
      (call state host environment line).2.book =
        ((state.book.attached plan.level (some file)).enterAll
          (recordsOf state host environment line plan)).2 := by
  have path : plan.logPath? = some file := by simp only [Plan.logPath?, asked]
  have called := call_of_reaches host environment reaches
  have entered := (State.execute_book state host environment plan).2
  obtain ⟨-, -, ready⟩ := reaches
  -- The log is ready for the pass, so its file could be opened.
  cases opened : Log.openFile state.book.workspace (Path.Normal.ofText file) with
  | mk result workspace =>
    cases result with
    | error fault =>
      have unusable : LogUnusable state.book plan.logFile :=
        asked ▸ .unopened (congrArg Prod.fst opened)
      obtain ⟨fault, failed⟩ := (setUp_error_iff state.book plan).mpr ⟨fresh, unusable⟩
      rw [ready] at failed
      cases failed
    | ok place =>
      have first : state.book.openings (some file) = openingRecords state.book plan := by
        simp [Log.Logbook.openings, openingRecords, opened, asked, fresh]
      refine ⟨⟨place, Log.Logbook.logPlace?_of_opened opened⟩, ?_⟩
      rw [called, entered, path, first, recordsOf, called]

/-- A first call that is given a file leaves in it what it held, and behind that its
records that are well formed. -/
theorem file_of_reaches {file : Text} (reaches : Reaches state line plan)
    (fresh : state.book.isSetUp = false) (asked : plan.logFile = some (.word file)) :
    let after := (call state host environment line).2.book
    let written := Log.written state.book.now (recordsOf state host environment line plan)
    ∃ place, state.book.logPlace? (some file) = some place ∧
      after.handlers = [.console plan.level, .file place] ∧
      after.workspace.file? place =
        some ((state.book.workspace.file? place).getD [] ++ written.flatMap (·.2)) := by
  intro after written
  obtain ⟨⟨place, leads⟩, entered⟩ := book_of_reaches host environment reaches fresh asked
  have bare := Log.Logbook.handlers_eq_nil_iff.mpr fresh
  obtain ⟨handlers, files⟩ := Log.Logbook.attached_spec plan.level (some file) bare
  obtain ⟨now, -⟩ := state.book.attached_frame plan.level (some file)
  have held := files place
  rw [leads] at handlers
  rw [if_pos leads] at held
  have loud := recordsOf_loud host environment reaches
  have grown := Log.Logbook.enterAll_file handlers loud held
  rw [← entered, now] at grown
  refine ⟨place, leads, ?_, grown⟩
  simp only [after, entered]
  rw [Log.Logbook.enterAll_frame]
  exact handlers

/-- The notices in a log file: those of all deliveries, if the target is well formed. -/
theorem written_notices (reaches : Reaches state line plan) (now : Float) :
    ((Log.written now (recordsOf state host environment line plan)).map (·.1)).filter
        (·.opensWith .info "Sent signal ") =
      if plan.target.isWellFormed then
        ((call state host environment line).1.events.filterMap Event.delivery?).map
          (Proc.notice plan.target)
      else [] := by
  rw [Log.written_records, List.filter_filter, ← Proc.filter_notices,
    ← notices_of_reaches host environment reaches, List.filter_filter]
  simp only [Bool.and_comm]

/-- The log file of a first call tells its deliveries if the target is well formed. It
is attached behind the console, where its path leads. What it held stays in front of
what is written: a line for every record of the call whose texts are well formed. A
delivery is followed by its notice, and among what is written there is one notice for
each delivery and in their order, except that there is none if the name of the target
is not well formed. -/
theorem log_file_tells_deliveries {file : Text} (reaches : Reaches state line plan)
    (fresh : state.book.isSetUp = false) (asked : plan.logFile = some (.word file)) :
    let answer := (call state host environment line).1
    let after := (call state host environment line).2.book
    let deliveries := answer.events.filterMap Event.delivery?
    let written := Log.written state.book.now (recordsOf state host environment line plan)
    (∃ place, state.book.logPlace? (some file) = some place ∧
      after.handlers = [.console plan.level, .file place] ∧
      after.workspace.file? place =
        some ((state.book.workspace.file? place).getD [] ++ written.flatMap (·.2))) ∧
    answer.events.filter Event.isDealing = deliveries.flatMap (Proc.dealing plan.target) ∧
    (written.map (·.1)).filter (·.opensWith .info "Sent signal ") =
      if plan.target.isWellFormed then deliveries.map (Proc.notice plan.target) else [] := by
  intro answer after deliveries written
  exact ⟨file_of_reaches host environment reaches fresh asked,
    dealings_of_reaches host environment reaches, written_notices host environment reaches _⟩

end Call

/-- A call with a well-formed target leaves a line for its delivery behind. -/
theorem plain_delivery_logged :
    let line : List Text := ["w", "TERM", "--proc-root", "/p", "--ignore-vanished",
      "--log-file", "log"]
    let plan : Plan := ⟨"w", 15, some (.word "/p"), .info, some (.word "log"), true⟩
    let written := Log.written 0
      (recordsOf freshState Proc.Pass.crowdedHost (fun _ => none) line plan)
    Reaches freshState line plan ∧
    (written.map (·.1)).filter (·.opensWith .info "Sent signal ") = [Proc.notice "w" (12, 15)] := by
  intro line plan written
  have reaches : Reaches freshState line plan := ⟨rfl, rfl, by decide +kernel⟩
  have sent : (call freshState Proc.Pass.crowdedHost (fun _ => none) line).1.events.filterMap
      Event.delivery? = [(12, 15)] := by decide +kernel
  obtain ⟨-, -, notices⟩ :=
    log_file_tells_deliveries Proc.Pass.crowdedHost (fun _ => none) reaches rfl rfl
  rw [sent] at notices
  exact ⟨reaches, notices⟩

/-- A name that ends in a byte outside any scalar. -/
def rawName : Text := [.char 'w', .stray 0xFF]

/-- A host with one process of that name. -/
def rawNameHost : Host where
  listing path := if path == "/p" then .ok ["12"] else .error .notFound
  content _ := .bytes [0x4E, 0x61, 0x6D, 0x65, 0x3A, 0x09, 0x77, 0xFF, 0x0A]
  fault _ := none

/-- A delivery to a process whose name is not well formed is missing in the log file,
so not every log file tells all deliveries. -/
theorem raw_delivery_unlogged :
    let line : List Text := [rawName, "TERM", "--proc-root", "/p", "--log-file", "log"]
    let plan : Plan := ⟨rawName, 15, some (.word "/p"), .info, some (.word "log"), false⟩
    let deliveries := (call freshState rawNameHost (fun _ => none) line).1.events.filterMap
      Event.delivery?
    let written := Log.written 0 (recordsOf freshState rawNameHost (fun _ => none) line plan)
    (Reaches freshState line plan ∧ deliveries = [(12, 15)] ∧
      (written.map (·.1)).filter (·.opensWith .info "Sent signal ") = []) ∧
    ¬ ∀ (state : State) (host : Host) (environment : Environment) (line : List Text) (plan : Plan)
      (file : Text), Reaches state line plan → state.book.isSetUp = false →
      plan.logFile = some (.word file) →
      ((Log.written state.book.now (recordsOf state host environment line plan)).map (·.1)).filter
          (·.opensWith .info "Sent signal ") =
        ((call state host environment line).1.events.filterMap Event.delivery?).map
          (Proc.notice plan.target) := by
  intro line plan deliveries written
  have reaches : Reaches freshState line plan := ⟨rfl, rfl, by decide +kernel⟩
  have sent : deliveries = [(12, 15)] := by decide +kernel
  have missing : (written.map (·.1)).filter (·.opensWith .info "Sent signal ") = [] :=
    written_notices rawNameHost (fun _ => none) reaches 0
  refine ⟨⟨reaches, sent, missing⟩, fun complete => ?_⟩
  have told := complete freshState rawNameHost (fun _ => none) line plan "log" reaches rfl rfl
  have none : deliveries.map (Proc.notice plan.target) = [] := told.symm.trans missing
  rw [sent] at none
  cases none

end Program
end NamedSignal
