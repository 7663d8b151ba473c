import NamedSignal.Proofs.FileGrowth

/-!
The handlers of a logbook. There is none before the logbook is set up; then there is
the console, and the file behind it if one is asked for and can be opened. Records
change no handler, each handler takes a record at most once, and no file but the one
of the handler is touched.
-/
namespace NamedSignal.Log

namespace Handler

def isConsole : Handler → Bool
  | console _ => true
  | file _ => false

def isFile (handler : Handler) : Bool := !handler.isConsole

end Handler

namespace Logbook

theorem isSetUp_iff {book : Logbook} : book.isSetUp = true ↔ book.handlers ≠ [] := by
  simp [isSetUp]

theorem handlers_eq_nil_iff {book : Logbook} : book.handlers = [] ↔ book.isSetUp = false := by
  simp [isSetUp]

/-- The line that is shown of a record, if any is. Before the logbook is set up that is
the message of a loud record, and then the line of the console. -/
def line? (book : Logbook) (r : Record) : Option Text :=
  if r.level < book.threshold then none
  else match book.handlers with
  | [] => some (r.message ++ [.char '\n'])
  | handlers => handlers.findSome? fun
    | .console level => if level ≤ r.level then some (consoleLine book.now r) else none
    | .file _ => none

/-- A file among the handlers cannot take the record. -/
def loses (book : Logbook) (r : Record) : Bool :=
  !(r.level < book.threshold) && book.handlers.any Handler.isFile &&
    (lineBytes? book.now r).isNone

/-- The report that is shown of a record because a file cannot take it, if the host makes
one. -/
def loss? (book : Logbook) (r : Record) : Option Text :=
  if book.loses r then book.trace?.map fun trace => lossReport (trace r) r else none

/-- What is shown of a record, or nothing if it is dropped. -/
def told (book : Logbook) (r : Record) : Text :=
  if r.level < book.threshold then [] else book.shown r

section Enter

variable (book : Logbook) (r : Record) (records : List Record)

theorem enter_shown : (book.enter r).1 = book.told r := by
  unfold enter told
  split <;> rfl

/-- What is shown of records is what is shown of each. -/
theorem enterAll_shown : (book.enterAll records).1 = records.flatMap book.told := by
  induction records generalizing book with
  | nil => rfl
  | cons r rest ih =>
    have same : (book.enter r).2.told = book.told := by
      rw [enter_frame]
      rfl
    rw [enterAll, enter_shown, ih, same, List.flatMap_cons]

variable {book records} {place : Place}

private theorem foldl_keptBy_other {handlers : List Handler} (absent : .file place ∉ handlers)
    (workspace : Workspace) :
    (handlers.foldl (book.keptBy r) workspace).file? place = workspace.file? place := by
  induction handlers generalizing workspace with
  | nil => rfl
  | cons handler rest ih =>
    rw [List.mem_cons, not_or] at absent
    obtain ⟨other, later⟩ := absent
    rw [List.foldl_cons, ih later]
    cases handler with
    | console level => rfl
    | file own =>
      have apart : place ≠ own := fun same => other (congrArg Handler.file same)
      unfold keptBy
      cases lineBytes? book.now r with
      | none => rfl
      | some bytes => exact Workspace.file?_append_other _ _ apart

/-- No other file is touched. -/
theorem enterAll_unfiled (absent : .file place ∉ book.handlers) :
    (book.enterAll records).2.workspace.file? place = book.workspace.file? place := by
  induction records generalizing book with
  | nil => rfl
  | cons r rest ih =>
    have first : (book.enter r).2.workspace.file? place = book.workspace.file? place := by
      unfold enter
      split
      · rfl
      · exact foldl_keptBy_other r absent book.workspace
    rw [enterAll, ih (by rw [enter_frame]; exact absent), first]

theorem enterAll_append (book : Logbook) (first second : List Record) :
    book.enterAll (first ++ second) =
      ((book.enterAll first).1 ++ ((book.enterAll first).2.enterAll second).1,
        ((book.enterAll first).2.enterAll second).2) := by
  induction first generalizing book with
  | nil => rfl
  | cons r rest ih => simp [enterAll, ih]

end Enter

section SetUp

variable (book : Logbook) (level : Level) (file : Option Text)

/-- The logbook with the handlers it has, or else with those that are asked for. -/
def attached : Logbook :=
  if book.isSetUp then book
  else match file with
  | none => book.attach (.console level)
  | some file =>
    match openFile book.workspace (Path.Normal.ofText file) with
    | (.error _, workspace) => { book.attach (.console level) with workspace }
    | (.ok place, workspace) =>
      ({ book.attach (.console level) with workspace }).attach (.file place)

/-- What is said when handlers are attached: that the file is open. -/
def openings : List Record :=
  match file with
  | none => []
  | some file =>
    match (openFile book.workspace (Path.Normal.ofText file)).1 with
    | .ok _ => if book.isSetUp then [] else [opening (Path.Normal.ofText file)]
    | .error _ => []

/-- The place of a log file: where its path leads when the directories above it are
made. There is none if no file is asked for, and if it cannot be opened. -/
def logPlace? : Option Place :=
  file.bind fun file =>
    let path := Path.Normal.ofText file
    let made := (book.workspace.assureDirectories path.parent).2
    match (openFile book.workspace path).1, made.openAppend (made.absolute path) with
    | .ok _, .ok (place, _) => some place
    | _, _ => none

/-- Setting a logbook up attaches handlers and enters that its file is open. -/
theorem setUp_eq : (book.setUp level file).2 =
    (book.attached level file).enterAll (book.openings file) := by
  unfold setUp attached openings
  cases ready : book.isSetUp with
  | true =>
    cases file with
    | none => rfl
    | some file =>
      simp only [↓reduceIte]
      split <;> rfl
  | false =>
    cases file with
    | none => rfl
    | some file =>
      simp only [Bool.false_eq_true, ↓reduceIte, attach_workspace]
      cases openFile book.workspace (Path.Normal.ofText file) with
      | mk result workspace =>
        cases result with
        | error fault => rfl
        | ok place => simp [enterAll]

variable {book level file}

theorem attached_of_setUp (ready : book.isSetUp = true) : book.attached level file = book :=
  if_pos ready

theorem logPlace?_of_opened {path : Text} {place : Place} {workspace : Workspace}
    (opened : openFile book.workspace (Path.Normal.ofText path) = (.ok place, workspace)) :
    book.logPlace? (some path) = some place := by
  obtain ⟨made, assured, leads, -⟩ := openFile_inv opened
  simp [logPlace?, opened, assured, leads]

theorem logPlace?_of_failed {path : Text} {fault : SetUpFault}
    (failed : (openFile book.workspace (Path.Normal.ofText path)).1 = .error fault) :
    book.logPlace? (some path) = none := by
  simp [logPlace?, failed]

/-- Handlers are attached to a logbook that has none: the console, and the file at its
place if it can be opened. A file that is opened begins with what it held, and no other
is touched. -/
theorem attached_spec (level : Level) (file : Option Text) (bare : book.handlers = []) :
    (book.attached level file).handlers =
        .console level :: (book.logPlace? file).toList.map .file ∧
      ∀ place, (book.attached level file).workspace.file? place =
        if book.logPlace? file = some place then some ((book.workspace.file? place).getD [])
        else book.workspace.file? place := by
  have fresh : ¬ book.isSetUp = true := by simp [isSetUp, bare]
  unfold attached
  rw [if_neg fresh]
  cases file with
  | none => simp [bare, logPlace?]
  | some file =>
    cases opened : openFile book.workspace (Path.Normal.ofText file) with
    | mk result workspace =>
      cases result with
      | error fault =>
        have files := openFile_fails opened
        have same (place : Place) : workspace.file? place = book.workspace.file? place := by
          simp only [Workspace.file?, files]
        rw [logPlace?_of_failed (congrArg Prod.fst opened)]
        simp [opened, bare, same]
      | ok own =>
        rw [logPlace?_of_opened opened]
        refine ⟨by simp [opened, bare], fun place => ?_⟩
        simp only [opened, attach_workspace, openFile_file? opened place, Option.some.injEq,
          eq_comm (a := place)]
        split
        · rename_i here
          rw [here]
        · rfl

/-- The time of records and the traces that a host makes do not depend on handlers. -/
theorem attached_frame (book : Logbook) (level : Level) (file : Option Text) :
    (book.attached level file).now = book.now ∧
      (book.attached level file).trace? = book.trace? := by
  unfold attached
  split
  · exact ⟨rfl, rfl⟩
  · split
    · exact ⟨rfl, rfl⟩
    · split <;> exact ⟨rfl, rfl⟩

/-- The handlers that a logbook has stay, and if it has none those come that are asked
for. -/
theorem attached_handlers : (book.attached level file).handlers =
    if book.handlers = [] then .console level :: (book.logPlace? file).toList.map .file
    else book.handlers := by
  split
  · rename_i bare
    exact (attached_spec level file bare).1
  · rename_i some_handler
    rw [attached_of_setUp (isSetUp_iff.mpr some_handler)]

end SetUp

/-- The handlers of a logbook in order: none, or a console, or a console and behind that a
file that is there. -/
inductive Sound (book : Logbook) : Prop where
  | bare (empty : book.handlers = [])
  | shown (level : Level) (alone : book.handlers = [.console level])
  | filed (level : Level) (place : Place) (content : List UInt8)
      (both : book.handlers = [.console level, .file place])
      (held : book.workspace.file? place = some content)

namespace Sound

variable {book : Logbook} {level : Level} {file : Option Text} {records : List Record}

/-- There are never two consoles or two files. -/
theorem single (sound : book.Sound) : book.handlers.countP Handler.isConsole ≤ 1 ∧
    book.handlers.countP Handler.isFile ≤ 1 := by
  cases sound with
  | bare empty => simp [empty]
  | shown level alone => simp [alone, Handler.isConsole, Handler.isFile]
  | filed level place content both =>
    simp [both, List.countP_cons, Handler.isConsole, Handler.isFile]

/-- The time of records does not matter. -/
theorem at_time (sound : book.Sound) (now : Float) : Sound { book with now } := by
  cases sound with
  | bare empty => exact .bare empty
  | shown level alone => exact .shown level alone
  | filed level place content both held => exact .filed level place content both held

/-- A file among the handlers is there. -/
theorem held (sound : book.Sound) {place : Place} (filed : .file place ∈ book.handlers) :
    ∃ content, book.workspace.file? place = some content := by
  cases sound with
  | bare empty => simp [empty] at filed
  | shown level alone => simp [alone] at filed
  | filed level own content both held =>
    obtain rfl : place = own := by simpa [both] using filed
    exact ⟨content, held⟩

/-- What is shown of a record is a line at most, and a report at most. -/
theorem told_eq (sound : book.Sound) (r : Record) :
    book.told r = (book.line? r).getD [] ++ (book.loss? r).getD [] := by
  unfold told line? loss? loses
  by_cases dropped : r.level < book.threshold
  · simp [dropped]
  · cases sound with
    | bare empty => simp [dropped, empty, Logbook.shown, isSetUp]
    | shown level alone =>
      by_cases reached : level ≤ r.level <;>
        simp [dropped, alone, reached, Logbook.shown, isSetUp, shownBy, Handler.isFile,
          Handler.isConsole]
    | filed level place content both =>
      have reported : book.shownBy r (.file place) = ((if (lineBytes? book.now r).isNone then
          book.trace?.map fun trace => lossReport (trace r) r
          else none) : Option Text).getD [] := by
        unfold shownBy report
        cases lineBytes? book.now r <;> cases book.trace? <;> rfl
      by_cases reached : level ≤ r.level
      · have line : book.shownBy r (.console level) = consoleLine book.now r := if_pos reached
        simp [dropped, both, reached, Logbook.shown, isSetUp, line, reported, Handler.isFile,
          Handler.isConsole]
      · have line : book.shownBy r (.console level) = [] := if_neg reached
        simp [dropped, both, reached, Logbook.shown, isSetUp, line, reported, Handler.isFile,
          Handler.isConsole]

/-- Attaching handlers makes the file if it is not there, and touches no other. -/
theorem attached_file? (sound : book.Sound) (place : Place) :
    (book.attached level file).workspace.file? place =
      if .file place ∈ (book.attached level file).handlers then
        some ((book.workspace.file? place).getD [])
      else book.workspace.file? place := by
  by_cases bare : book.handlers = []
  · obtain ⟨handlers, holds⟩ := attached_spec level file bare
    rw [holds, handlers]
    simp [Option.mem_toList]
  · rw [attached_of_setUp (isSetUp_iff.mpr bare)]
    split
    · rename_i filed
      obtain ⟨content, held⟩ := sound.held filed
      simp [held]
    · rfl

protected theorem attached (sound : book.Sound) : (book.attached level file).Sound := by
  by_cases bare : book.handlers = []
  · obtain ⟨handlers, holds⟩ := attached_spec level file bare
    cases place : book.logPlace? file with
    | none =>
      rw [place] at handlers
      exact .shown level handlers
    | some own =>
      have held := holds own
      rw [place] at handlers
      rw [if_pos place] at held
      exact .filed level own _ handlers held
  · rwa [attached_of_setUp (isSetUp_iff.mpr bare)]

/-- Records come to the end of the file, and no other is touched. -/
theorem enterAll_file? (sound : book.Sound) (place : Place) :
    (book.enterAll records).2.workspace.file? place =
      if .file place ∈ book.handlers then
        some ((book.workspace.file? place).getD [] ++ (records.filterMap book.bytes?).flatten)
      else book.workspace.file? place := by
  split
  · rename_i filed
    cases sound with
    | bare empty => simp [empty] at filed
    | shown level alone => simp [alone] at filed
    | filed level own content both held =>
      obtain rfl : place = own := by simpa [both] using filed
      rw [enterAll_filed both held, held, Option.getD_some]
  · rename_i absent
    exact enterAll_unfiled absent

protected theorem enterAll (sound : book.Sound) : (book.enterAll records).2.Sound := by
  have handlers : (book.enterAll records).2.handlers = book.handlers := by
    rw [enterAll_frame]
  cases sound with
  | bare empty => exact .bare (handlers.trans empty)
  | shown level alone => exact .shown level (handlers.trans alone)
  | filed level place content both held =>
    exact .filed level place _ (handlers.trans both) (enterAll_filed both held)

end Sound

end Logbook
end NamedSignal.Log
