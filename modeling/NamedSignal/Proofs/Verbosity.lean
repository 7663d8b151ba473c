import Mathlib.Algebra.Order.BigOperators.Group.List
import NamedSignal.Proofs.DeliveryLog
import NamedSignal.Proofs.LevelFlag

/-!
What the level of the console changes. Two command lines that differ for the level only
have plans that do, and the level is looked at only where a record is shown. So both
calls do the same, and the one with the higher level shows the records of the other that
reach it. A host may report the records that the log file could not take. Such a report
is no record and has no level, so both calls show it.
-/
namespace NamedSignal

namespace Log

/-- A level that has a name is one for those who look for details, or above that. -/
theorem Level.debug_le_of_name {word : Text} {level : Level}
    (named : Level.ofName? word = some level) :
    .debug ≤ level := by
  have all : ∀ entry ∈ ([("DEBUG", .debug), ("INFO", .info), ("WARNING", .warning),
      ("ERROR", .error)] : List (String × Level)), Level.debug ≤ entry.2 := by decide
  unfold Level.ofName? at named
  split at named
  · cases named
  · obtain ⟨entry, found, rfl⟩ := Option.map_eq_some_iff.mp named
    exact all entry (List.mem_of_find?_eq_some found)

/-- The handler at another level, if it has one. -/
def Handler.atLevel (level : Level) : Handler → Handler
  | console _ => console level
  | file place => file place

/-- What is shown in one piece: the line of a record, or the report on a record that a
file could not take. -/
inductive Piece where
  | line (r : Record)
  | report (r : Record)

/-- The piece is shown at a level. A report is at every level. -/
def Piece.reaches (level : Level) : Piece → Bool
  | line r => level ≤ r.level
  | report _ => true

/-- Lists that are put together in turns are the first ones alone exactly if the others
are empty. -/
private theorem flatMap_append_eq_iff {α β : Type} {f g : α → List β} {l : List α} :
    (l.flatMap fun a => f a ++ g a) = l.flatMap f ↔ ∀ a ∈ l, g a = [] := by
  constructor
  · intro same
    have lengths := congrArg List.length same
    simp only [List.length_flatMap, List.length_append, List.sum_map_add, Nat.add_eq_left,
      List.sum_eq_zero_iff, List.mem_map, forall_exists_index, and_imp, forall_apply_eq_imp_iff₂,
      List.length_eq_zero_iff] at lengths
    exact lengths
  · intro empty
    exact List.flatMap_congr fun a member => by rw [empty a member, List.append_nil]

namespace Logbook

/-- The logbook with its console at another level. -/
def atLevel (book : Logbook) (level : Level) : Logbook :=
  { book with handlers := book.handlers.map (·.atLevel level) }

/-- The text of a piece. -/
def textOf (book : Logbook) : Piece → Text
  | .line r => consoleLine book.now r
  | .report r => book.report r

/-- The pieces that a record may come to: its line, and behind that the report if a file
cannot take it. -/
def pieces (book : Logbook) (r : Record) : List Piece :=
  .line r :: if book.loses r then [.report r] else []

section Shown

variable {book : Logbook} {level : Level} {place? : Option Place}

/-- A console at a level shows the line of a record that reaches it. -/
theorem line?_of_console (attached : book.handlers = .console level :: place?.toList.map .file)
    (named : .debug ≤ level) (r : Record) :
    book.line? r = if level ≤ r.level then some (consoleLine book.now r) else none := by
  unfold line?
  by_cases reached : level ≤ r.level
  · have kept : ¬ r.level < Level.debug := Int.not_lt.mpr (Int.le_trans named reached)
    simp [threshold, isSetUp, attached, kept, reached]
  · cases place? <;> simp [attached, reached]

/-- The report on a record is shown exactly if a file loses the record. -/
theorem loss?_getD (book : Logbook) (r : Record) :
    (book.loss? r).getD [] = if book.loses r then book.report r else [] := by
  unfold loss? report
  cases book.loses r <;> cases book.trace? <;> rfl

/-- A report says something. -/
theorem loss?_eq_none_iff (book : Logbook) (r : Record) :
    book.loss? r = none ↔ (book.loss? r).getD [] = [] := by
  unfold loss?
  cases book.loses r <;> cases book.trace? <;> simp [lossReport, Text.concat, Text.ofString]

/-- What is shown of a record are its pieces that reach the level. -/
theorem told_pieces (sound : book.Sound)
    (attached : book.handlers = .console level :: place?.toList.map .file)
    (named : .debug ≤ level) (r : Record) :
    book.told r = ((book.pieces r).filter (·.reaches level)).flatMap book.textOf := by
  rw [sound.told_eq, line?_of_console attached named, loss?_getD, pieces, List.filter_cons]
  by_cases reached : level ≤ r.level <;> cases book.loses r <;>
    simp [Piece.reaches, reached, textOf]

variable {records : List Record} (sound : book.Sound)
  (attached : book.handlers = .console level :: place?.toList.map .file) (named : .debug ≤ level)

include sound attached named

/-- What is shown of records are their pieces that reach the level. -/
theorem enterAll_pieces : (book.enterAll records).1 =
    ((records.flatMap book.pieces).filter (·.reaches level)).flatMap book.textOf := by
  rw [enterAll_shown, List.filter_flatMap, List.flatMap_assoc]
  exact List.flatMap_congr fun r _ => told_pieces sound attached named r

/-- What is shown are lines of records and nothing else exactly if nothing is reported. -/
theorem enterAll_lines_iff : (book.enterAll records).1 =
    (records.filter (level ≤ ·.level)).flatMap (consoleLine book.now) ↔
      ∀ r ∈ records, book.loss? r = none := by
  have lines : (records.filter (level ≤ ·.level)).flatMap (consoleLine book.now) =
      records.flatMap fun r => (book.line? r).getD [] := by
    simp only [line?_of_console attached named]
    induction records with
    | nil => rfl
    | cons r rest ih => by_cases reached : level ≤ r.level <;> simp [reached, ih]
  rw [enterAll_shown, lines, funext sound.told_eq, flatMap_append_eq_iff]
  simp only [loss?_eq_none_iff]

end Shown

section AtLevel

variable {book : Logbook}

end AtLevel

end Logbook
end Log

namespace Program

/-- The call is understood, and its settings are in order. -/
inductive Plans (state : State) (line : List Text) : Plan → Prop where
  | intro {options : Options} {plan : Plan} (asked : Options.parse line = .ok (.run options))
      (planned : Program.plan state.book.workspace options = .ok plan) : Plans state line plan

/-- A plan is made of the words, the flags and the settings in front of them, and its
level has a name. -/
theorem plan_inv {workspace : Workspace} {options : Options} {planned : Plan}
    (isPlan : plan workspace options = .ok planned) :
    ∃ base, baseSettings workspace options.flags = .ok base ∧ .debug ≤ planned.level ∧
      planned = {
        target := options.target
        signal := options.signal
        root := options.flags.root <|> base.root.map .word
        level := planned.level
        logFile := options.flags.logFile <|> base.logFile.map .word
        ignoreVanished := options.flags.ignoreVanished || base.ignoreVanished } := by
  obtain ⟨base, loaded, made⟩ := values_of_bind isPlan
  refine ⟨base, loaded, ?_⟩
  simp only at made
  split at made
  · cases made
  · rename_i level leveled
    have named : ∃ word, Log.Level.ofName? word = some level := by
      unfold Settings.level at leveled
      split at leveled
      · rename_i found
        exact ⟨_, Except.ok.inj leveled ▸ found⟩
      · cases leveled
    obtain ⟨word, named⟩ := named
    cases made
    refine ⟨Log.Level.debug_le_of_name named, ?_⟩
    cases options.flags.logLevel <;> rfl

section Execute

variable (state : State) (host : Host) (environment : Environment) (plan : Plan)

end Execute

/-- A call that is understood carries out its plan, and enters what it says behind the
handlers that the plan asks for. -/
theorem Plans.call_eq {state : State} {line : List Text} {plan : Plan}
    (planned : Plans state line plan) (host : Host) (environment : Environment) :
    let step := Step.call host environment line
    call state host environment line = execute state host environment plan ∧
      step.book state = state.book.attached plan.level plan.logPath? ∧
      step.records state = state.book.openings plan.logPath? ++
        (execute state host environment plan).1.events.filterMap Event.record? := by
  obtain ⟨asked, planned⟩ := planned
  simp only [Step.book, Step.records, Step.asks, call, asked, planned, and_self]

theorem Plans.level_named {state : State} {line : List Text} {plan : Plan}
    (planned : Plans state line plan) : .debug ≤ plan.level := by
  obtain ⟨-, planned⟩ := planned
  obtain ⟨-, -, named, -⟩ := plan_inv planned
  exact named

/-- A first call shows the pieces of its records that reach the level of its plan. These
are lines of records and nothing else exactly if nothing is reported. -/
theorem Plans.shows {state : State} {line : List Text} {plan : Plan}
    (planned : Plans state line plan) (host : Host) (environment : Environment)
    (fresh : state.book.isSetUp = false) :
    let errors := (call state host environment line).1.errors
    let book := Step.book state (.call host environment line)
    let records := Step.records state (.call host environment line)
    errors = ((records.flatMap book.pieces).filter (·.reaches plan.level)).flatMap book.textOf ∧
      (errors = (records.filter (plan.level ≤ ·.level)).flatMap (Log.consoleLine state.book.now) ↔
        ∀ record ∈ records, book.loss? record = none) := by
  intro errors book records
  obtain ⟨called, attaches, told⟩ := planned.call_eq host environment
  have bare := Log.Logbook.handlers_eq_nil_iff.mpr fresh
  have handlers := (Log.Logbook.attached_spec plan.level plan.logPath? bare).1
  have sound : (state.book.attached plan.level plan.logPath?).Sound :=
    Log.Logbook.Sound.attached (.bare bare)
  have now := (state.book.attached_frame plan.level plan.logPath?).1
  have shown : errors = (book.enterAll records).1 := by
    simp only [errors, book, records, called, attaches, told]
    exact (State.execute_book state host environment plan).1
  rw [← attaches] at handlers sound now
  rw [shown, ← now]
  exact ⟨Log.Logbook.enterAll_pieces sound handlers planned.level_named,
    Log.Logbook.enterAll_lines_iff sound handlers planned.level_named⟩

end Program
end NamedSignal
